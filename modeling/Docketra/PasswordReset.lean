import Docketra.Lib.Interleaving
import Docketra.Text
import Mathlib.Algebra.GroupWithZero.Nat

/-!
# Password resets by a mailed code

`services/authPassword.service.js` resets a forgotten password in three requests: one mails a code,
one exchanges the code for a token, and one sets a password with the token. All of them read the
user's record, wait for a hash, and save the fields that they have changed. Requests for one user
may come at the same time, so that a save is on top of others that it has not read.

In every run, a password is set with a token that was granted for a code that had been mailed, each
within ten minutes of the one before (`resets_backed`). That a code is compared five times at most,
and that a grant or a reset directly follows what it is for, holds where the requests come one at a
time (`resets_in_turn`).

`bcrypt`, the hash of a token and what they are drawn from are those of an `Env`; `Env.Sound` is what
is relied on. The look-up of the user by e-mail address or xID, the mail and the audit are left out.
-/

namespace Docketra.PasswordReset

open Interleaving Runs

def FORGOT_PASSWORD_OTP_EXPIRY_MINUTES : ℕ := 10
def FORGOT_PASSWORD_OTP_LOCK_MINUTES : ℕ := 10
def FORGOT_PASSWORD_OTP_RESEND_COOLDOWN_SECONDS : ℕ := 30

/-- The time that a code and a token are good for, in milliseconds. -/
def expiry : ℕ := FORGOT_PASSWORD_OTP_EXPIRY_MINUTES * 60 * 1000

/-- The fields of a user's record that the requests read or write. -/
structure User where
  forgotPasswordOtpHash : Option String := none
  forgotPasswordOtpExpiresAt : Option ℕ := none
  forgotPasswordOtpAttempts : ℕ := 0
  forgotPasswordOtpLastSentAt : Option ℕ := none
  forgotPasswordOtpLockedUntil : Option ℕ := none
  forgotPasswordOtpResendCount : ℕ := 0
  forgotPasswordResetTokenHash : Option String := none
  forgotPasswordResetTokenExpiresAt : Option ℕ := none
  passwordHash : Option String := none
  passwordSet : Bool := false
  passwordSetAt : Option ℕ := none
  forcePasswordReset : Bool := false
  deriving DecidableEq, Repr

/-- What requests draw and hash. `otp r`, `resetToken r` and the salts are those of request `r`. -/
structure Env where
  otp : ℕ → String
  hashOtp : ℕ → String → String
  verifyOtp : String → String → Bool
  resetToken : ℕ → String
  hashLoginSessionToken : String → String
  hashPassword : ℕ → String → String

/-- The hash of the code of a request. -/
def Env.otpHash (env : Env) (r : ℕ) : String := env.hashOtp r (env.otp r)

/-- The hash of the token of a request. -/
def Env.tokenHash (env : Env) (r : ℕ) : String := env.hashLoginSessionToken (env.resetToken r)

/-- A code that is accepted is the one that was hashed, and no two requests draw the same hash. -/
structure Env.Sound (env : Env) : Prop where
  verifies : ∀ r code code', env.verifyOtp code (env.hashOtp r code') = true → code = code'
  otps : Function.Injective env.otpHash
  tokens : Function.Injective env.tokenHash

/-! ## What the requests change -/

def clearForgotPasswordOtpState (user : User) : User :=
  { user with
    forgotPasswordOtpHash := none
    forgotPasswordOtpExpiresAt := none
    forgotPasswordOtpAttempts := 0
    forgotPasswordOtpLastSentAt := none
    forgotPasswordOtpLockedUntil := none
    forgotPasswordOtpResendCount := 0 }

/-- What a request has in mind for the record. -/
inductive Change where
  | issue
  | lock
  | fail
  /-- The code was accepted. The record was checked at `checkedAt`. -/
  | grant (otp : String) (checkedAt : ℕ)
  /-- The token was accepted. -/
  | reset (resetToken password : String) (checkedAt : ℕ)
  deriving DecidableEq, Repr

/-- `incrementAttempts` of the code service. -/
def incrementAttempts (currentAttempts maxAttempts : ℕ) : ℕ × Bool :=
  (currentAttempts + 1, decide (maxAttempts ≤ currentAttempts + 1))

def lockedUntil (now : ℕ) : ℕ := now + FORGOT_PASSWORD_OTP_LOCK_MINUTES * 60 * 1000

/-- The record as request `r` has it when it is to be saved. -/
def Change.apply (env : Env) (r now : ℕ) (user : User) : Change → User
  | .issue =>
    { user with
      forgotPasswordOtpHash := some (env.otpHash r)
      forgotPasswordOtpExpiresAt := some (now + expiry)
      forgotPasswordOtpAttempts := 0
      forgotPasswordOtpLastSentAt := some now
      forgotPasswordOtpLockedUntil := none
      forgotPasswordOtpResendCount := user.forgotPasswordOtpResendCount + 1
      forgotPasswordResetTokenHash := none
      forgotPasswordResetTokenExpiresAt := none }
  | .lock => { user with forgotPasswordOtpLockedUntil := some (lockedUntil now) }
  | .fail =>
    { user with
      forgotPasswordOtpAttempts := (incrementAttempts user.forgotPasswordOtpAttempts 5).1
      forgotPasswordOtpLockedUntil :=
        if (incrementAttempts user.forgotPasswordOtpAttempts 5).2 then some (lockedUntil now)
        else user.forgotPasswordOtpLockedUntil }
  | .grant _ _ =>
    { clearForgotPasswordOtpState user with
      forgotPasswordResetTokenHash := some (env.tokenHash r)
      forgotPasswordResetTokenExpiresAt := some (now + expiry) }
  | .reset _ password _ =>
    { clearForgotPasswordOtpState user with
      passwordHash := some (env.hashPassword r password)
      passwordSet := true
      passwordSetAt := some now
      forcePasswordReset := false
      forgotPasswordResetTokenHash := none
      forgotPasswordResetTokenExpiresAt := none }

/-- A field after a save: it is written if it was changed. -/
def saved {α : Type} [DecidableEq α] (read value stored : α) : α :=
  if value = read then stored else value

/-- `user.save()`, of a record that was read as `read` and is now `user`. -/
def save (read user stored : User) : User where
  forgotPasswordOtpHash := saved read.forgotPasswordOtpHash user.forgotPasswordOtpHash
    stored.forgotPasswordOtpHash
  forgotPasswordOtpExpiresAt := saved read.forgotPasswordOtpExpiresAt
    user.forgotPasswordOtpExpiresAt stored.forgotPasswordOtpExpiresAt
  forgotPasswordOtpAttempts := saved read.forgotPasswordOtpAttempts
    user.forgotPasswordOtpAttempts stored.forgotPasswordOtpAttempts
  forgotPasswordOtpLastSentAt := saved read.forgotPasswordOtpLastSentAt
    user.forgotPasswordOtpLastSentAt stored.forgotPasswordOtpLastSentAt
  forgotPasswordOtpLockedUntil := saved read.forgotPasswordOtpLockedUntil
    user.forgotPasswordOtpLockedUntil stored.forgotPasswordOtpLockedUntil
  forgotPasswordOtpResendCount := saved read.forgotPasswordOtpResendCount
    user.forgotPasswordOtpResendCount stored.forgotPasswordOtpResendCount
  forgotPasswordResetTokenHash := saved read.forgotPasswordResetTokenHash
    user.forgotPasswordResetTokenHash stored.forgotPasswordResetTokenHash
  forgotPasswordResetTokenExpiresAt := saved read.forgotPasswordResetTokenExpiresAt
    user.forgotPasswordResetTokenExpiresAt stored.forgotPasswordResetTokenExpiresAt
  passwordHash := saved read.passwordHash user.passwordHash stored.passwordHash
  passwordSet := saved read.passwordSet user.passwordSet stored.passwordSet
  passwordSetAt := saved read.passwordSetAt user.passwordSetAt stored.passwordSetAt
  forcePasswordReset := saved read.forcePasswordReset user.forcePasswordReset
    stored.forcePasswordReset

/-! ## The requests -/

/-- The body of a request, where what is missing is empty. -/
structure Body where
  identifier : String
  otp : String := ""
  resetToken : String := ""
  password : String := ""
  deriving DecidableEq, Repr

structure Response where
  status : ℕ := 200
  success : Bool := false
  message : String
  retryAfter : Option ℕ := none
  resetToken : Option String := none
  resendCooldownSeconds : Option ℕ := none
  deriving DecidableEq, Repr

/-- What a request has come to. -/
inductive Phase where
  | waiting
  /-- A code is being hashed. -/
  | issuing (user : User)
  /-- A code is being compared. -/
  | comparing (otp : String) (checkedAt : ℕ) (user : User)
  /-- A password is being hashed. -/
  | hashing (resetToken password : String) (checkedAt : ℕ) (user : User)
  | saving (user : User) (change : Change) (computedAt : ℕ)
  | answered (response : Response)
  | stopped
  deriving DecidableEq, Repr

def genericMessage : String := "If the account exists, an OTP has been sent to email."

/-- The seconds to a time, rounded up. -/
def secondsTo (time now : ℕ) : ℕ := (time - now + 999) / 1000

def resendCooldownEndsAt (user : User) : ℕ :=
  user.forgotPasswordOtpLastSentAt.getD 0 + FORGOT_PASSWORD_OTP_RESEND_COOLDOWN_SECONDS * 1000

/-- `forgotPasswordInit`, up to the hash. `found` is the user of the identifier, if there is one. -/
def forgotPasswordInit (now : ℕ) (body : Body) (found : Option User) : Phase :=
  if trim body.identifier = "" then
    .answered { status := 400, message := "email or xID is required" }
  else
    match found with
    | none => .answered { success := true, message := genericMessage }
    | some user =>
      if now < resendCooldownEndsAt user then
        .answered { status := 429, message := "Too many attempts",
                    retryAfter := some (secondsTo (resendCooldownEndsAt user) now) }
      else .issuing user

/-- A code is six digits. -/
def isOtp (otp : String) : Bool := otp.length = 6 && otp.toList.all Char.isDigit

/-- The hash and its time are there, and the time is not over. -/
def isOpen (now : ℕ) (hash : Option String) (expiresAt : Option ℕ) : Bool :=
  truthy hash && expiresAt.any (now ≤ ·)

def invalidOtp : Response := { status := 401, message := "Invalid or expired OTP" }

/-- `forgotPasswordVerify`, up to the comparison or the lock. -/
def forgotPasswordVerify (now : ℕ) (body : Body) (found : Option User) : Phase :=
  if trim body.identifier = "" || !isOtp (trim body.otp) then
    .answered { status := 400, message := "email/xID and valid OTP are required" }
  else
    match found with
    | none => .answered invalidOtp
    | some user =>
      if !isOpen now user.forgotPasswordOtpHash user.forgotPasswordOtpExpiresAt then
        .answered invalidOtp
      else if user.forgotPasswordOtpLockedUntil.any (now < ·) then
        .answered { status := 429, message := "Too many attempts",
                    retryAfter := user.forgotPasswordOtpLockedUntil.map (secondsTo · now) }
      else if 5 ≤ user.forgotPasswordOtpAttempts then .saving user .lock now
      else .comparing (trim body.otp) now user

/-- The characters that a dot of a pattern does not match. -/
def isLineTerminator (c : Char) : Bool :=
  c = '\n' || c = '\r' || c = Char.ofNat 0x2028 || c = Char.ofNat 0x2029

/-- `validatePasswordStrength` of `utils/passwordPolicy.js`. Lengths are in 16-bit units. -/
def validatePasswordStrength (password : String) : Bool :=
  let cs := password.toList
  cs.any Char.isLower && cs.any Char.isUpper && cs.any Char.isDigit &&
    cs.any (fun c => !c.isAlphanum) && cs.all (fun c => !isLineTerminator c) &&
      8 ≤ (cs.map fun c => if c.toNat < 0x10000 then 1 else 2).sum

def PASSWORD_POLICY_MESSAGE : String :=
  "Password must be at least 8 characters long and include uppercase, lowercase, number, and " ++
    "special character."

def invalidSession : Response := { status := 401, message := "Invalid or expired reset session" }

/-- `forgotPasswordResetWithOtp`, up to the hash. -/
def forgotPasswordResetWithOtp (env : Env) (now : ℕ) (body : Body) (found : Option User) : Phase :=
  if trim body.identifier = "" || trim body.resetToken = "" || body.password = "" then
    .answered { status := 400, message := "email/xID, resetToken, and password are required" }
  else if !validatePasswordStrength body.password then
    .answered { status := 400, message := PASSWORD_POLICY_MESSAGE }
  else
    match found with
    | none => .answered invalidSession
    | some user =>
      if !isOpen now user.forgotPasswordResetTokenHash user.forgotPasswordResetTokenExpiresAt then
        .answered invalidSession
      else if user.forgotPasswordResetTokenHash ≠
          some (env.hashLoginSessionToken (trim body.resetToken)) then
        .answered invalidSession
      else .hashing (trim body.resetToken) body.password now user

/-- The answer when a change has been saved. -/
def responseOf (env : Env) (r : ℕ) (user : User) : Change → Response
  | .issue => { success := true, message := genericMessage,
                resendCooldownSeconds := some FORGOT_PASSWORD_OTP_RESEND_COOLDOWN_SECONDS }
  | .lock => { status := 429, message := "Too many attempts" }
  | .fail =>
    if (incrementAttempts user.forgotPasswordOtpAttempts 5).2 then
      { status := 429, message := "Too many attempts" }
    else invalidOtp
  | .grant _ _ => { success := true, message := "OTP verified",
                    resetToken := some (env.resetToken r) }
  | .reset _ _ _ => { success := true, message := "Password reset successful" }

/-! ## Runs -/

/-- A change that was saved, and when. -/
structure Record where
  request : ℕ
  change : Change
  time : ℕ
  deriving DecidableEq, Repr

/-- The user's record, and what has been done: the hashes that codes were compared with, and the
changes that count, the last one first. -/
structure Store where
  now : ℕ
  user : User
  comparisons : List String
  history : List Record
  deriving DecidableEq, Repr

/-- A code that is mailed, a token that is granted, and a password that is set. -/
def Change.counts : Change → Bool
  | .issue | .grant _ _ | .reset _ _ _ => true
  | .lock | .fail => false

/-- A step of a request. `isFound` tells whether the identifier is that of the user. -/
inductive Action where
  | init (body : Body) (isFound : Bool)
  | verify (body : Body) (isFound : Bool)
  | reset (body : Body) (isFound : Bool)
  | compute
  | save
  | stop
  deriving DecidableEq, Repr

/-- A comparison, and what it leads to. -/
def compared (env : Env) (otp : String) (checkedAt : ℕ) (user : User) : Change :=
  if env.verifyOtp otp (user.forgotPasswordOtpHash.getD "") then .grant otp checkedAt else .fail

/-- The store after a save. -/
def Store.save (env : Env) (r : ℕ) (s : Store) (user : User) (change : Change) (computedAt : ℕ) :
    Store :=
  { s with
    user := PasswordReset.save user (change.apply env r computedAt user) s.user
    history := if change.counts then ⟨r, change, s.now⟩ :: s.history else s.history }

def act (env : Env) (r : ℕ) : Action → Store → Phase → Option (Store × Phase)
  | .stop, s, _ => some (s, .stopped)
  | .init body isFound, s, .waiting =>
    some (s, forgotPasswordInit s.now body (if isFound then some s.user else none))
  | .verify body isFound, s, .waiting =>
    some (s, forgotPasswordVerify s.now body (if isFound then some s.user else none))
  | .reset body isFound, s, .waiting =>
    some (s, forgotPasswordResetWithOtp env s.now body (if isFound then some s.user else none))
  | .compute, s, .issuing user => some (s, .saving user .issue s.now)
  | .compute, s, .comparing otp checkedAt user =>
    some ({ s with comparisons := user.forgotPasswordOtpHash.getD "" :: s.comparisons },
      .saving user (compared env otp checkedAt user) s.now)
  | .compute, s, .hashing resetToken password checkedAt user =>
    some (s, .saving user (.reset resetToken password checkedAt) s.now)
  | .save, s, .saving user change computedAt =>
    some (s.save env r user change computedAt, .answered (responseOf env r user change))
  | _, _, _ => none

/-- Time passes. -/
structure Elapse where
  ms : ℕ
  deriving DecidableEq, Repr

def program (env : Env) : Program Store Phase Action Elapse where
  act := act env
  other e s := { s with now := s.now + e.ms }

/-- A user whose record is as the requests have not touched it. -/
def initial (now : ℕ) (user : User) : System Store Phase where
  stored := ⟨now, user, [], []⟩
  phase _ := .waiting

/-- No code and no token are open. -/
structure IsClear (user : User) : Prop where
  otpHash : user.forgotPasswordOtpHash = none
  otpExpiresAt : user.forgotPasswordOtpExpiresAt = none
  tokenHash : user.forgotPasswordResetTokenHash = none
  tokenExpiresAt : user.forgotPasswordResetTokenExpiresAt = none

/-- A check comes after the record, within the time that the record is good for. -/
def InTime (record : Record) (checkedAt : ℕ) : Prop :=
  record.time ≤ checkedAt ∧ checkedAt ≤ record.time + expiry

/-- The record is what a grant or a reset takes: it has mailed the code, or granted the token. -/
def Backs (env : Env) (record : Record) : Change → Prop
  | .grant otp checkedAt =>
    record.change = .issue ∧ env.otp record.request = otp ∧ InTime record checkedAt
  | .reset resetToken _ checkedAt =>
    (∃ otp time, record.change = .grant otp time) ∧
      env.tokenHash record.request = env.hashLoginSessionToken resetToken ∧ InTime record checkedAt
  | _ => True

/-- Each grant and each reset has a record, among some of those before it, that backs it. -/
def BackedIn (env : Env) (among : List Record → List Record) (history : List Record) : Prop :=
  ∀ record earlier, (record :: earlier) <:+ history → record.change ≠ .issue →
    ∃ b ∈ among earlier, Backs env b record.change

/-! ## What is open -/

/-- The code that a record has mailed, by its hash. -/
def Env.codeOf (env : Env) (record : Record) : Option String :=
  match record.change with
  | .issue => some (env.otpHash record.request)
  | _ => none

/-- The token that a record has granted, by its hash. -/
def Env.tokenOf (env : Env) (record : Record) : Option String :=
  match record.change with
  | .grant _ _ => some (env.tokenHash record.request)
  | _ => none

theorem Env.change_of_codeOf {env : Env} {record : Record} {hash : String}
    (h : env.codeOf record = some hash) :
    record.change = .issue ∧ env.otpHash record.request = hash := by
  unfold Env.codeOf at h
  split at h
  · exact ⟨‹_›, Option.some.inj h⟩
  · exact nomatch h

theorem Env.change_of_tokenOf {env : Env} {record : Record} {hash : String}
    (h : env.tokenOf record = some hash) :
    (∃ otp time, record.change = .grant otp time) ∧ env.tokenHash record.request = hash := by
  unfold Env.tokenOf at h
  split at h
  · exact ⟨⟨_, _, ‹_›⟩, Option.some.inj h⟩
  · exact nomatch h

/-- A hash is that of one of the records, and is good for no longer than the record is. -/
structure Covered (of : Record → Option String) (records : List Record) (now : ℕ)
    (hash : Option String) (expiresAt : Option ℕ) : Prop where
  limit : ∀ e, expiresAt = some e → e ≤ now + expiry
  record : ∀ h, hash = some h → ∃ b ∈ records, of b = some h ∧ b.time ≤ now ∧
    ∀ e, expiresAt = some e → e ≤ b.time + expiry

section covered

variable {of : Record → Option String} {records records' : List Record} {now later : ℕ}
  {hash hash' : Option String} {expiresAt expiresAt' : Option ℕ}

theorem Covered.none : Covered of records now none none :=
  ⟨fun _ h => (nomatch h), fun _ h => (nomatch h)⟩

theorem Covered.mono (h : Covered of records now hash expiresAt) (hrecords : records ⊆ records')
    (hlater : now ≤ later) : Covered of records' later hash expiresAt where
  limit e he := (h.limit e he).trans (Nat.add_le_add_right hlater expiry)
  record x hx := by
    obtain ⟨b, hb, hof, htime, hexpires⟩ := h.record x hx
    exact ⟨b, hrecords hb, hof, htime.trans hlater, hexpires⟩

/-- What is taken back is covered. -/
theorem Covered.recede (h : Covered of records now hash expiresAt)
    (hhash : ∀ x, hash' = some x → hash = some x)
    (hexpires : ∀ e, expiresAt' = some e → expiresAt = some e) :
    Covered of records now hash' expiresAt' where
  limit e he := h.limit e (hexpires e he)
  record x hx := by
    obtain ⟨b, hb, hof, htime, hlimit⟩ := h.record x (hhash x hx)
    exact ⟨b, hb, hof, htime, fun e he => hlimit e (hexpires e he)⟩

/-- A new record covers its hash. -/
theorem Covered.renew {b : Record} (hb : b ∈ records) (hof : of b = hash) (htime : b.time = now)
    (hlimit : ∀ e, expiresAt = some e → e ≤ now + expiry) :
    Covered of records now hash expiresAt where
  limit := hlimit
  record _ hx := ⟨b, hb, hof.trans hx, htime.le, htime ▸ hlimit⟩

/-- What is open at a time is of a record that is in time. -/
theorem Covered.inTime (h : Covered of records now hash expiresAt)
    (hopen : isOpen now hash expiresAt = true) :
    ∃ x, hash = some x ∧ ∃ b ∈ records, of b = some x ∧ InTime b now := by
  unfold isOpen at hopen
  rw [Bool.and_eq_true, Option.any_eq_true] at hopen
  obtain ⟨htruthy, e, he, hnow⟩ := hopen
  cases hash with
  | none => exact nomatch htruthy
  | some x =>
    obtain ⟨b, hb, hof, htime, hlimit⟩ := h.record x rfl
    exact ⟨x, rfl, b, hb, hof, htime, (of_decide_eq_true hnow).trans (hlimit e he)⟩

end covered

/-! ## Saves -/

section saves

variable {α : Type} [DecidableEq α]

theorem saved_same (read stored : α) : saved read read stored = stored := if_pos rfl

theorem saved_current (read value : α) : saved read value read = value := by
  unfold saved
  split_ifs with h
  · exact h.symm
  · rfl

theorem saved_changed {read value : α} (stored : α) (h : value ≠ read) :
    saved read value stored = value := if_neg h

/-- A field is as it was computed or as it was stored. -/
theorem saved_either {p : α → Prop} (read : α) {value stored : α} (hvalue : p value)
    (hstored : p stored) : p (saved read value stored) := by
  unfold saved
  split_ifs
  · exact hstored
  · exact hvalue

theorem of_saved_same {read stored : Option α} {x : α} (h : saved read read stored = some x) :
    stored = some x := (saved_same read stored).symm.trans h

theorem of_saved_none {read stored : Option α} {x : α} (h : saved read none stored = some x) :
    stored = some x := by
  unfold saved at h
  split_ifs at h
  exact h

end saves

/-- A save on top of what was read writes all of it. -/
theorem save_current (read user : User) : save read user read = user := by
  unfold save
  simp only [saved_current]

/-! ## What holds in every run -/

section invariant

variable {env : Env} {passwordHash : Option String} {history : List Record} {now : ℕ}

/-- The user's record as it was read, or is stored. -/
structure Grounded (env : Env) (among : List Record → List Record) (history : List Record)
    (now : ℕ) (user : User) : Prop where
  code : Covered env.codeOf (among history) now user.forgotPasswordOtpHash
    user.forgotPasswordOtpExpiresAt
  token : Covered env.tokenOf (among history) now user.forgotPasswordResetTokenHash
    user.forgotPasswordResetTokenExpiresAt

/-- A request has not changed anything that counts. -/
def Fresh (r : ℕ) (history : List Record) : Prop := ∀ record ∈ history, record.request ≠ r

/-- The password is the one at first, or one that was set. -/
def PasswordFrom (env : Env) (passwordHash : Option String) (history : List Record)
    (stored : Option String) : Prop :=
  stored = passwordHash ∨ ∃ record ∈ history, ∃ resetToken password checkedAt,
    record.change = .reset resetToken password checkedAt ∧
      stored = some (env.hashPassword record.request password)

/-- What a change is backed by. -/
def Earned (env : Env) (among : List Record → List Record) (history : List Record)
    (change : Change) : Prop :=
  change.counts = true → change ≠ .issue → ∃ b ∈ among history, Backs env b change

structure StoreInv (env : Env) (passwordHash : Option String) (s : Store) : Prop where
  user : Grounded env id s.history s.now s.user
  backed : BackedIn env id s.history
  password : PasswordFrom env passwordHash s.history s.user.passwordHash
  nodup : (s.history.map Record.request).Nodup

/-- What a request has read, and what its change is backed by. -/
def OwnInv (env : Env) (r : ℕ) (s : Store) : Phase → Prop
  | .waiting => Fresh r s.history
  | .issuing user => Fresh r s.history ∧ Grounded env id s.history s.now user
  | .comparing _ checkedAt user =>
    Fresh r s.history ∧ Grounded env id s.history s.now user ∧
      ∃ hash, user.forgotPasswordOtpHash = some hash ∧
        ∃ b ∈ s.history, env.codeOf b = some hash ∧ InTime b checkedAt
  | .hashing resetToken password checkedAt user =>
    Fresh r s.history ∧ Grounded env id s.history s.now user ∧
      ∃ b ∈ s.history, Backs env b (.reset resetToken password checkedAt)
  | .saving user change computedAt =>
    Fresh r s.history ∧ Grounded env id s.history s.now user ∧ computedAt ≤ s.now ∧
      Earned env id s.history change
  | .answered _ | .stopped => True

def assertions (env : Env) (passwordHash : Option String) : Assertions Store Phase where
  store := StoreInv env passwordHash
  own := OwnInv env
  both _ _ := True

theorem Grounded.mono {among : List Record → List Record} {history' : List Record} {later : ℕ}
    {user : User} (h : Grounded env among history now user)
    (hhistory : among history ⊆ among history') (hlater : now ≤ later) :
    Grounded env among history' later user :=
  ⟨h.code.mono hhistory hlater, h.token.mono hhistory hlater⟩

/-- The hash of a request's code is not the one that was read, where the request is fresh. -/
theorem Grounded.otpHash_ne {r : ℕ} {user : User} (h : Grounded env id history now user)
    (hsound : env.Sound) (hfresh : Fresh r history) :
    some (env.otpHash r) ≠ user.forgotPasswordOtpHash := by
  intro heq
  obtain ⟨b, hb, hof, -, -⟩ := h.code.record _ heq.symm
  exact hfresh b hb (hsound.otps (Env.change_of_codeOf hof).2)

theorem Grounded.tokenHash_ne {r : ℕ} {user : User} (h : Grounded env id history now user)
    (hsound : env.Sound) (hfresh : Fresh r history) :
    some (env.tokenHash r) ≠ user.forgotPasswordResetTokenHash := by
  intro heq
  obtain ⟨b, hb, hof, -, -⟩ := h.token.record _ heq.symm
  exact hfresh b hb (hsound.tokens (Env.change_of_tokenOf hof).2)

/-- The history after a save. -/
def recorded (r now : ℕ) (change : Change) (history : List Record) : List Record :=
  if change.counts then ⟨r, change, now⟩ :: history else history

theorem subset_recorded (r now : ℕ) (change : Change) (history : List Record) :
    history ⊆ recorded r now change history := by
  unfold recorded
  split_ifs
  · exact List.subset_cons_self _ _
  · exact List.Subset.refl history

theorem mem_recorded {r : ℕ} {change : Change} {record : Record}
    (h : record ∈ recorded r now change history) :
    record = ⟨r, change, now⟩ ∨ record ∈ history := by
  unfold recorded at h
  split_ifs at h
  · exact List.mem_cons.mp h
  · exact .inr h

/-- A save leaves a record that is grounded, whatever others have saved since it was read. -/
theorem Grounded.save {r computedAt : ℕ} {user stored : User} {change : Change}
    (hstored : Grounded env id history now stored) (hread : Grounded env id history now user)
    (hsound : env.Sound) (hfresh : Fresh r history) (hcomputed : computedAt ≤ now) :
    Grounded env id (recorded r now change history) now
      (save user (change.apply env r computedAt user) stored) := by
  have hlater := hstored.mono (subset_recorded r now change history) (Nat.le_refl now)
  have hcode := hlater.code
  have htoken := hlater.token
  -- A limit that is computed before the save is one from the save on.
  have hlimit {expiresAt : Option ℕ} (h : expiresAt = some (computedAt + expiry)) :
      ∀ e, expiresAt = some e → e ≤ now + expiry := by
    intro e he
    rw [h, Option.some.injEq] at he
    omega
  cases change with
  | issue =>
    refine ⟨.renew (b := ⟨r, .issue, now⟩) List.mem_cons_self ?_ rfl ?_, ?_⟩
    · exact (saved_changed _ (hread.otpHash_ne hsound hfresh)).symm
    · exact saved_either (p := fun x => ∀ e, x = some e → e ≤ now + expiry) _ (hlimit rfl)
        hcode.limit
    · exact htoken.recede (fun _ => of_saved_none) fun _ => of_saved_none
  | lock =>
    exact ⟨hcode.recede (fun _ => of_saved_same) fun _ => of_saved_same,
      htoken.recede (fun _ => of_saved_same) fun _ => of_saved_same⟩
  | fail =>
    exact ⟨hcode.recede (fun _ => of_saved_same) fun _ => of_saved_same,
      htoken.recede (fun _ => of_saved_same) fun _ => of_saved_same⟩
  | grant otp checkedAt =>
    refine ⟨hcode.recede (fun _ => of_saved_none) fun _ => of_saved_none,
      .renew (b := ⟨r, .grant otp checkedAt, now⟩) List.mem_cons_self ?_ rfl ?_⟩
    · exact (saved_changed _ (hread.tokenHash_ne hsound hfresh)).symm
    · exact saved_either (p := fun x => ∀ e, x = some e → e ≤ now + expiry) _ (hlimit rfl)
        htoken.limit
  | reset resetToken password checkedAt =>
    exact ⟨hcode.recede (fun _ => of_saved_none) fun _ => of_saved_none,
      htoken.recede (fun _ => of_saved_none) fun _ => of_saved_none⟩

theorem PasswordFrom.mono {history' : List Record} {stored : Option String}
    (h : PasswordFrom env passwordHash history stored) (hhistory : history ⊆ history') :
    PasswordFrom env passwordHash history' stored :=
  h.imp_right fun ⟨record, hrecord, hset⟩ => ⟨record, hhistory hrecord, hset⟩

theorem PasswordFrom.save {r computedAt : ℕ} {user stored : User} {change : Change}
    (h : PasswordFrom env passwordHash history stored.passwordHash) :
    PasswordFrom env passwordHash (recorded r now change history)
      (save user (change.apply env r computedAt user) stored).passwordHash := by
  have hstored := h.mono (subset_recorded r now change history)
  cases change with
  | reset resetToken password checkedAt =>
    refine saved_either _ (.inr ?_) hstored
    exact ⟨_, List.mem_cons_self, resetToken, password, checkedAt, rfl, rfl⟩
  | issue | lock | fail | grant otp checkedAt =>
    show PasswordFrom env passwordHash _ (saved user.passwordHash user.passwordHash _)
    rw [saved_same]
    exact hstored

theorem BackedIn.recorded {among : List Record → List Record} {r : ℕ} {change : Change}
    (h : BackedIn env among history) (hearned : Earned env among history change) :
    BackedIn env among (recorded r now change history) := by
  intro record earlier hsuffix hne
  unfold PasswordReset.recorded at hsuffix
  split_ifs at hsuffix with hcounts
  · rcases List.suffix_cons_iff.mp hsuffix with heq | hsuffix
    · obtain ⟨rfl, rfl⟩ := List.cons.inj heq
      exact hearned hcounts hne
    · exact h record earlier hsuffix hne
  · exact h record earlier hsuffix hne

theorem Fresh.recorded {r r' : ℕ} {change : Change} (h : Fresh r history) (hne : r' ≠ r) :
    Fresh r (recorded r' now change history) := by
  intro record hrecord
  rcases mem_recorded hrecord with rfl | hrecord
  · exact hne
  · exact h record hrecord

theorem Fresh.nodup {r : ℕ} {change : Change} (h : Fresh r history)
    (hnodup : (history.map Record.request).Nodup) :
    ((PasswordReset.recorded r now change history).map Record.request).Nodup := by
  unfold PasswordReset.recorded
  split_ifs
  · refine List.nodup_cons.mpr ⟨fun hmem => ?_, hnodup⟩
    obtain ⟨record, hrecord, heq⟩ := List.mem_map.mp hmem
    exact h record hrecord heq
  · exact hnodup

theorem OwnInv.mono {r : ℕ} {s s' : Store} {phase : Phase} (h : OwnInv env r s phase)
    (hhistory : s.history ⊆ s'.history) (hfresh : Fresh r s.history → Fresh r s'.history)
    (hnow : s.now ≤ s'.now) : OwnInv env r s' phase := by
  cases phase with
  | waiting => exact hfresh h
  | issuing user => exact ⟨hfresh h.1, h.2.mono hhistory hnow⟩
  | comparing otp checkedAt user =>
    obtain ⟨hf, hground, hash, hhash, b, hb, hopen⟩ := h
    exact ⟨hfresh hf, hground.mono hhistory hnow, hash, hhash, b, hhistory hb, hopen⟩
  | hashing resetToken password checkedAt user =>
    obtain ⟨hf, hground, b, hb, hbacks⟩ := h
    exact ⟨hfresh hf, hground.mono hhistory hnow, b, hhistory hb, hbacks⟩
  | saving user change computedAt =>
    obtain ⟨hf, hground, hcomputed, hearned⟩ := h
    refine ⟨hfresh hf, hground.mono hhistory hnow, hcomputed.trans hnow, fun hcounts hne => ?_⟩
    obtain ⟨b, hb, hbacks⟩ := hearned hcounts hne
    exact ⟨b, hhistory hb, hbacks⟩
  | answered response => trivial
  | stopped => trivial

/-! ### The first step of each request -/

theorem found_eq {isFound : Bool} {stored user : User}
    (h : (if isFound then some stored else none) = some user) : user = stored := by
  split_ifs at h
  exact (Option.some.inj h).symm

/-- A request for a code goes on with the user that it has found. -/
theorem forgotPasswordInit_cases (now : ℕ) (body : Body) (found : Option User) :
    (∃ response, forgotPasswordInit now body found = .answered response) ∨
      ∃ user, found = some user ∧ forgotPasswordInit now body found = .issuing user := by
  unfold forgotPasswordInit
  split_ifs
  · exact .inl ⟨_, rfl⟩
  · cases found with
    | none => exact .inl ⟨_, rfl⟩
    | some user =>
      dsimp only
      split_ifs
      · exact .inl ⟨_, rfl⟩
      · exact .inr ⟨user, rfl, rfl⟩

/-- A verification goes on where a code is open, with a comparison as long as there have been fewer
than five of them. -/
theorem forgotPasswordVerify_cases (now : ℕ) (body : Body) (found : Option User) :
    (∃ response, forgotPasswordVerify now body found = .answered response) ∨
      ∃ user, found = some user ∧
        isOpen now user.forgotPasswordOtpHash user.forgotPasswordOtpExpiresAt = true ∧
          (forgotPasswordVerify now body found = .saving user .lock now ∨
            user.forgotPasswordOtpAttempts < 5 ∧
              forgotPasswordVerify now body found = .comparing (trim body.otp) now user) := by
  unfold forgotPasswordVerify
  split_ifs
  · exact .inl ⟨_, rfl⟩
  · cases found with
    | none => exact .inl ⟨_, rfl⟩
    | some user =>
      dsimp only
      split_ifs with hopen hlocked hattempts
      · exact .inl ⟨_, rfl⟩
      · exact .inl ⟨_, rfl⟩
      · exact .inr ⟨user, rfl, by simpa using hopen, .inl rfl⟩
      · exact .inr ⟨user, rfl, by simpa using hopen, .inr ⟨by omega, rfl⟩⟩

/-- A reset goes on where the token is open and is the one of the request. -/
theorem forgotPasswordResetWithOtp_cases (env : Env) (now : ℕ) (body : Body) (found : Option User) :
    (∃ response, forgotPasswordResetWithOtp env now body found = .answered response) ∨
      ∃ user, found = some user ∧
        isOpen now user.forgotPasswordResetTokenHash user.forgotPasswordResetTokenExpiresAt = true ∧
          user.forgotPasswordResetTokenHash =
              some (env.hashLoginSessionToken (trim body.resetToken)) ∧
            forgotPasswordResetWithOtp env now body found =
              .hashing (trim body.resetToken) body.password now user := by
  unfold forgotPasswordResetWithOtp
  split_ifs
  · exact .inl ⟨_, rfl⟩
  · exact .inl ⟨_, rfl⟩
  · cases found with
    | none => exact .inl ⟨_, rfl⟩
    | some user =>
      dsimp only
      split_ifs with hopen htoken
      · exact .inl ⟨_, rfl⟩
      · exact .inl ⟨_, rfl⟩
      · exact .inr ⟨user, rfl, by simpa using hopen, by simpa using htoken, rfl⟩

/-- A record that has granted the token of a hash backs the reset with the token. -/
theorem backs_reset {b : Record} {resetToken password : String} {checkedAt : ℕ}
    (hof : env.tokenOf b = some (env.hashLoginSessionToken resetToken))
    (htime : InTime b checkedAt) : Backs env b (.reset resetToken password checkedAt) :=
  ⟨(Env.change_of_tokenOf hof).1, (Env.change_of_tokenOf hof).2, htime⟩

/-- A code that is accepted is the one that the record has mailed. -/
theorem backs_grant {b : Record} {hash otp : String} {checkedAt : ℕ} (hsound : env.Sound)
    (hof : env.codeOf b = some hash) (htime : InTime b checkedAt)
    (hverified : env.verifyOtp otp hash = true) : Backs env b (.grant otp checkedAt) := by
  obtain ⟨hchange, hissued⟩ := Env.change_of_codeOf hof
  rw [← hissued] at hverified
  exact ⟨hchange, (hsound.verifies b.request otp (env.otp b.request) hverified).symm, htime⟩

/-- What a comparison leads to is backed by what the code is. -/
theorem earned_compared {among : List Record → List Record} {user : User} {hash otp : String}
    {checkedAt : ℕ} {b : Record} (hsound : env.Sound)
    (hhash : user.forgotPasswordOtpHash = some hash) (hb : b ∈ among history)
    (hof : env.codeOf b = some hash) (htime : InTime b checkedAt) :
    Earned env among history (compared env otp checkedAt user) := by
  intro hcounts hne
  unfold compared at hcounts ⊢
  rw [hhash] at hcounts ⊢
  split_ifs with hverified
  · exact ⟨b, hb, backs_grant hsound hof htime hverified⟩
  · rw [if_neg hverified] at hcounts
    exact nomatch hcounts

/-! ### Steps -/

/-- A step keeps what holds when it keeps what holds of the store and of its request, and leaves the
history and the time, or adds to them. -/
theorem keeps_of {s : System Store Phase} (h : Holds (assertions env passwordHash) s) {r : ℕ}
    {stored : Store} {phase : Phase} (hstore : StoreInv env passwordHash stored)
    (hown : OwnInv env r stored phase) (hhistory : s.stored.history ⊆ stored.history)
    (hfresh : ∀ r', r' ≠ r → Fresh r' s.stored.history → Fresh r' stored.history)
    (hnow : s.stored.now ≤ stored.now) :
    Keeps (assertions env passwordHash) s r (stored, phase) where
  store := hstore
  own := hown
  others r' hr' := (h.own r').mono hhistory (hfresh r' hr') hnow
  both _ _ := ⟨trivial, trivial⟩

/-- A step that leaves the user's record and the history. -/
theorem keeps_phase {s : System Store Phase} (h : Holds (assertions env passwordHash) s) {r : ℕ}
    {phase : Phase} (hown : OwnInv env r s.stored phase) :
    Keeps (assertions env passwordHash) s r (s.stored, phase) :=
  keeps_of h h.store hown (List.Subset.refl _) (fun _ _ => id) (Nat.le_refl _)

section started

variable {s : Store} {r : ℕ} {phase : Phase} {body : Body} {found : Option User}

/-- The first step of a request for a code, which finds the user as it is stored or none. -/
theorem own_init (hfresh : Fresh r s.history) (hstored : Grounded env id s.history s.now s.user)
    (hstarted : ∀ user, found = some user → user = s.user)
    (h : (∃ response, phase = .answered response) ∨
      ∃ user, found = some user ∧ phase = .issuing user) : OwnInv env r s phase := by
  obtain ⟨response, rfl⟩ | ⟨user, hfound, rfl⟩ := h
  · trivial
  · rw [hstarted user hfound]
    exact ⟨hfresh, hstored⟩

theorem own_verify (hfresh : Fresh r s.history) (hstored : Grounded env id s.history s.now s.user)
    (hstarted : ∀ user, found = some user → user = s.user)
    (h : (∃ response, phase = .answered response) ∨ ∃ user, found = some user ∧
      isOpen s.now user.forgotPasswordOtpHash user.forgotPasswordOtpExpiresAt = true ∧
        (phase = .saving user .lock s.now ∨ user.forgotPasswordOtpAttempts < 5 ∧
          phase = .comparing (trim body.otp) s.now user)) : OwnInv env r s phase := by
  obtain ⟨response, rfl⟩ | ⟨user, hfound, hopen, rfl | ⟨-, rfl⟩⟩ := h
  · trivial
  · rw [hstarted user hfound]
    exact ⟨hfresh, hstored, Nat.le_refl s.now, fun hcounts => nomatch hcounts⟩
  · rw [hstarted user hfound] at hopen ⊢
    exact ⟨hfresh, hstored, hstored.code.inTime hopen⟩

/-- The token of a request that goes on is covered by a record that backs the reset. -/
theorem backs_of_open {among : List Record → List Record} {history : List Record} {now : ℕ}
    {user : User} {resetToken password : String} (h : Grounded env among history now user)
    (hopen : isOpen now user.forgotPasswordResetTokenHash
      user.forgotPasswordResetTokenExpiresAt = true)
    (htoken : user.forgotPasswordResetTokenHash = some (env.hashLoginSessionToken resetToken)) :
    ∃ b ∈ among history, Backs env b (.reset resetToken password now) := by
  obtain ⟨hash, hhash, b, hb, hof, htime⟩ := h.token.inTime hopen
  rw [htoken, Option.some.injEq] at hhash
  subst hhash
  exact ⟨b, hb, backs_reset hof htime⟩

theorem own_reset (hfresh : Fresh r s.history) (hstored : Grounded env id s.history s.now s.user)
    (hstarted : ∀ user, found = some user → user = s.user)
    (h : (∃ response, phase = .answered response) ∨ ∃ user, found = some user ∧
      isOpen s.now user.forgotPasswordResetTokenHash user.forgotPasswordResetTokenExpiresAt = true ∧
        user.forgotPasswordResetTokenHash =
            some (env.hashLoginSessionToken (trim body.resetToken)) ∧
          phase = .hashing (trim body.resetToken) body.password s.now user) :
    OwnInv env r s phase := by
  obtain ⟨response, rfl⟩ | ⟨user, hfound, hopen, htoken, rfl⟩ := h
  · trivial
  · rw [hstarted user hfound] at hopen htoken ⊢
    exact ⟨hfresh, hstored, backs_of_open hstored hopen htoken⟩

end started

theorem act_keeps (hsound : env.Sound) {s : System Store Phase}
    (h : Holds (assertions env passwordHash) s) (r : ℕ) (action : Action)
    (result : Store × Phase) (hact : act env r action s.stored (s.phase r) = some result) :
    Keeps (assertions env passwordHash) s r result := by
  have hown := h.own r
  obtain ⟨stored, phase⟩ := s
  dsimp only at hact hown
  generalize hphase : phase r = own at hact hown
  have hstored : StoreInv env passwordHash stored := h.store
  revert hact
  fun_cases act env r action stored own with
  | case1 =>
    rintro ⟨⟩
    exact keeps_phase h trivial
  | case2 body isFound stored =>
    rintro ⟨⟩
    have hcases := forgotPasswordInit_cases stored.now body
      (if isFound then some stored.user else none)
    generalize forgotPasswordInit stored.now body _ = phase' at hcases ⊢
    exact keeps_phase h (own_init hown hstored.user (fun _ => found_eq) hcases)
  | case3 body isFound stored =>
    rintro ⟨⟩
    have hcases := forgotPasswordVerify_cases stored.now body
      (if isFound then some stored.user else none)
    generalize forgotPasswordVerify stored.now body _ = phase' at hcases ⊢
    exact keeps_phase h (own_verify hown hstored.user (fun _ => found_eq) hcases)
  | case4 body isFound stored =>
    rintro ⟨⟩
    have hcases := forgotPasswordResetWithOtp_cases env stored.now body
      (if isFound then some stored.user else none)
    generalize forgotPasswordResetWithOtp env stored.now body _ = phase' at hcases ⊢
    exact keeps_phase h (own_reset hown hstored.user (fun _ => found_eq) hcases)
  | case5 user =>
    rintro ⟨⟩
    exact keeps_phase h ⟨hown.1, hown.2, Nat.le_refl stored.now, fun _ hne => absurd rfl hne⟩
  | case6 otp checkedAt user =>
    rintro ⟨⟩
    obtain ⟨hfresh, hground, hash, hhash, b, hb, hof, htime⟩ := hown
    -- A comparison is noted, which no assertion is about.
    refine keeps_of h ⟨hstored.user, hstored.backed, hstored.password, hstored.nodup⟩ ?_
      (List.Subset.refl _) (fun _ _ => id) (Nat.le_refl _)
    exact ⟨hfresh, hground, Nat.le_refl stored.now, earned_compared hsound hhash hb hof htime⟩
  | case7 resetToken password checkedAt user =>
    rintro ⟨⟩
    obtain ⟨hfresh, hground, hbacked⟩ := hown
    exact keeps_phase h ⟨hfresh, hground, Nat.le_refl stored.now, fun _ _ => hbacked⟩
  | case8 _ user change computedAt =>
    rintro ⟨⟩
    obtain ⟨hfresh, hground, hcomputed, hearned⟩ := hown
    refine keeps_of h ⟨?_, ?_, ?_, ?_⟩ trivial (subset_recorded r stored.now change _) ?_
      (Nat.le_refl _)
    · exact hstored.user.save hground hsound hfresh hcomputed
    · exact hstored.backed.recorded hearned
    · exact hstored.password.save
    · exact hfresh.nodup hstored.nodup
    · exact fun r' hr' hfresh' => hfresh'.recorded (Ne.symm hr')
  | case9 => exact fun hact => nomatch hact

theorem holds_step (hsound : env.Sound) (event : Event Action Elapse) (s : System Store Phase)
    (h : Holds (assertions env passwordHash) s) :
    Holds (assertions env passwordHash) (step (program env) event s) := by
  cases event with
  | act r action => exact h.act fun result hresult => act_keeps hsound h r action result hresult
  | other e =>
    have hnow : s.stored.now ≤ s.stored.now + e.ms := Nat.le_add_right _ _
    refine h.other ⟨?_, h.store.backed, h.store.password, h.store.nodup⟩ fun r => ?_
    · exact h.store.user.mono (List.Subset.refl _) hnow
    · exact (h.own r).mono (List.Subset.refl _) id hnow

theorem holds_initial {user : User} (hclear : IsClear user) :
    Holds (assertions env user.passwordHash) (initial now user) where
  store := by
    refine ⟨⟨?_, ?_⟩, fun record earlier h => ?_, .inl rfl, List.nodup_nil⟩
    · show Covered env.codeOf [] now user.forgotPasswordOtpHash user.forgotPasswordOtpExpiresAt
      rw [hclear.otpHash, hclear.otpExpiresAt]
      exact .none
    · show Covered env.tokenOf [] now user.forgotPasswordResetTokenHash
        user.forgotPasswordResetTokenExpiresAt
      rw [hclear.tokenHash, hclear.tokenExpiresAt]
      exact .none
    · exact nomatch List.eq_nil_of_suffix_nil h
  own _ _ h := nomatch h
  both _ _ _ := trivial

end invariant

/-- Codes are hashed behind a salt as long as the request's number, tokens not at all. -/
def saltedEnv : Env where
  otp _ := "123456"
  hashOtp r code := String.ofList (List.replicate r 'x' ++ '.' :: code.toList)
  verifyOtp code hash := (hash.toList.dropWhile (· = 'x')).tail = code.toList
  resetToken r := String.ofList (List.replicate (r + 1) 'x')
  hashLoginSessionToken token := token
  hashPassword r password := String.ofList (List.replicate r 'x' ++ '.' :: password.toList)

theorem saltedEnv_sound : saltedEnv.Sound where
  verifies r code code' h := by
    have hdrop : (List.replicate r 'x' ++ '.' :: code'.toList).dropWhile (· = 'x') =
        '.' :: code'.toList := by
      rw [List.dropWhile_append_of_pos fun a ha => decide_eq_true (List.eq_of_mem_replicate ha)]
      rfl
    have htail : ((String.ofList (List.replicate r 'x' ++ '.' :: code'.toList)).toList.dropWhile
        (· = 'x')).tail = code.toList := of_decide_eq_true h
    rw [String.toList_ofList, hdrop] at htail
    exact String.toList_injective htail.symm
  otps r r' h := by
    have hlength := congrArg (fun s => s.toList.length) h
    simpa [Env.otpHash, saltedEnv] using hlength
  tokens r r' h := by
    have hlength := congrArg (fun s => s.toList.length) h
    simpa [Env.tokenHash, saltedEnv] using hlength

/-- Every grant is for a code that was mailed, and every reset is with a token that was granted; each
check comes after what it takes, and within ten minutes. The password is the one at first, or one
that was set so. -/
structure ResetsBacked (env : Env) (passwordHash : Option String) (s : Store) : Prop where
  backed : BackedIn env id s.history
  password : PasswordFrom env passwordHash s.history s.user.passwordHash

/-- However many requests there are at once, and wherever they stop, resets are backed. -/
theorem resets_backed (env : Env) (hsound : env.Sound) (now : ℕ) (user : User)
    (hclear : IsClear user) (events : List (Event Action Elapse)) :
    ∀ s ∈ states (step (program env)) events (initial now user),
      ResetsBacked env user.passwordHash s.stored := by
  intro s hs
  have h := (states_keep (holds_step hsound) events _ (holds_initial hclear) s hs).store
  exact ⟨h.backed, h.password⟩

/-- A code is mailed, exchanged and used, while another one is asked for. -/
theorem resets_backed_once :
    let body : Body := { identifier := "X000001", otp := "123456", resetToken := "xx",
                         password := "Passw0rd!" }
    let events : List (Event Action Elapse) :=
      [.other ⟨60000⟩, .act 0 (.init body true), .act 0 .compute, .act 0 .save,
        .act 1 (.verify body true), .act 3 (.init body true), .act 1 .compute, .act 1 .save,
        .act 2 (.reset body true), .act 2 .compute, .act 2 .save]
    ResetsBacked saltedEnv none (run (step (program saltedEnv)) events (initial 0 {})).stored :=
  resets_backed saltedEnv saltedEnv_sound 0 {} ⟨rfl, rfl, rfl, rfl⟩ _ _ (run_mem_states _ _ _)

/-! ## Requests one at a time -/

/-- A request that comes alone, with the times that pass before its steps. -/
structure Turn where
  after : ℕ
  request : ℕ
  first : Action
  computeAfter : ℕ := 0
  saveAfter : ℕ := 0
  deriving DecidableEq, Repr

def Turn.events (t : Turn) : List (Event Action Elapse) :=
  [.other ⟨t.after⟩, .act t.request t.first, .other ⟨t.computeAfter⟩, .act t.request .compute,
    .other ⟨t.saveAfter⟩, .act t.request .save]

/-- A request, from its first step to its answer. -/
def turn (env : Env) (t : Turn) (s : System Store Phase) : System Store Phase :=
  run (step (program env)) t.events s

/-- The last change that counts. -/
def lastOf (history : List Record) : List Record := history.take 1

section turns

variable {env : Env} {passwordHash : Option String} {history : List Record} {now : ℕ}

def IsIdle : Phase → Prop
  | .waiting | .answered _ | .stopped => True
  | _ => False

/-- Whether a comparison has been made that no save has counted yet. -/
def pending : Phase → ℕ
  | .saving _ .fail _ | .saving _ (.grant _ _) _ => 1
  | _ => 0

/-- What the only request in flight has read is what is stored. -/
def Current (env : Env) (s : Store) : Phase → Prop
  | .issuing user => user = s.user
  | .comparing _ checkedAt user =>
    user = s.user ∧ user.forgotPasswordOtpAttempts < 5 ∧
      ∃ hash, user.forgotPasswordOtpHash = some hash ∧
        ∃ b ∈ lastOf s.history, env.codeOf b = some hash ∧ InTime b checkedAt
  | .hashing resetToken password checkedAt user =>
    user = s.user ∧ ∃ b ∈ lastOf s.history, Backs env b (.reset resetToken password checkedAt)
  | .saving user change computedAt =>
    user = s.user ∧ computedAt ≤ s.now ∧ Earned env lastOf s.history change
  | .waiting | .answered _ | .stopped => True

/-- What holds of the store, and of the only request that may be in flight. -/
structure TurnInv (env : Env) (s : Store) (phase : Phase) : Prop where
  own : Current env s phase
  user : Grounded env lastOf s.history s.now s.user
  backed : BackedIn env lastOf s.history
  known : ∀ hash ∈ s.comparisons, ∃ b ∈ s.history, env.codeOf b = some hash
  limited : ∀ hash, s.comparisons.count hash ≤ 5
  /-- The comparisons with an open code are those that the record counts. -/
  counted : ∀ hash, s.user.forgotPasswordOtpHash = some hash →
    s.comparisons.count hash = s.user.forgotPasswordOtpAttempts + pending phase

theorem TurnInv.phase {s : Store} {phase phase' : Phase} (h : TurnInv env s phase)
    (hown : Current env s phase') (hpending : pending phase' = pending phase) :
    TurnInv env s phase' :=
  ⟨hown, h.user, h.backed, h.known, h.limited, hpending ▸ h.counted⟩

/-- A save on top of what was read leaves what holds. -/
theorem Grounded.apply {r computedAt : ℕ} {user : User} {change : Change}
    (h : Grounded env lastOf history now user) (hcomputed : computedAt ≤ now) :
    Grounded env lastOf (recorded r now change history) now
      (change.apply env r computedAt user) := by
  have hlimit : ∀ e, some (computedAt + expiry) = some e → e ≤ now + expiry := by
    intro e he
    rw [Option.some.injEq] at he
    omega
  cases change with
  | issue =>
    exact ⟨.renew (b := ⟨r, .issue, now⟩) List.mem_cons_self rfl rfl hlimit, .none⟩
  | lock => exact ⟨h.code, h.token⟩
  | fail => exact ⟨h.code, h.token⟩
  | grant otp checkedAt =>
    exact ⟨.none, .renew (b := ⟨r, .grant otp checkedAt, now⟩) List.mem_cons_self rfl rfl hlimit⟩
  | reset resetToken password checkedAt => exact ⟨.none, .none⟩

/-- A code that a request has yet to mail has not been compared. -/
theorem TurnInv.count_fresh {s : Store} {phase : Phase} (h : TurnInv env s phase) {r : ℕ}
    (hsound : env.Sound) (hfresh : Fresh r s.history) :
    s.comparisons.count (env.otpHash r) = 0 := by
  refine List.count_eq_zero.mpr fun hmem => ?_
  obtain ⟨b, hb, hof⟩ := h.known _ hmem
  exact hfresh b hb (hsound.otps (Env.change_of_codeOf hof).2)

/-- The record counts a comparison when its outcome is saved. -/
theorem TurnInv.counted_apply {s : Store} {r computedAt : ℕ} {change : Change}
    (h : TurnInv env s (.saving s.user change computedAt)) (hsound : env.Sound)
    (hfresh : Fresh r s.history) (hash : String)
    (hhash : (change.apply env r computedAt s.user).forgotPasswordOtpHash = some hash) :
    s.comparisons.count hash =
      (change.apply env r computedAt s.user).forgotPasswordOtpAttempts := by
  cases change with
  | issue =>
    obtain rfl := Option.some.inj hhash
    exact h.count_fresh hsound hfresh
  | lock => exact h.counted hash hhash
  | fail => exact h.counted hash hhash
  | grant otp checkedAt => exact nomatch hhash
  | reset resetToken password checkedAt => exact nomatch hhash

theorem TurnInv.save {s : Store} {r computedAt : ℕ} {change : Change}
    (h : TurnInv env s (.saving s.user change computedAt)) (hsound : env.Sound)
    (hfresh : Fresh r s.history) (response : Response) :
    TurnInv env (s.save env r s.user change computedAt) (.answered response) := by
  obtain ⟨-, hcomputed, hearned⟩ := h.own
  have huser : (s.save env r s.user change computedAt).user =
      change.apply env r computedAt s.user := save_current _ _
  refine ⟨trivial, ?_, h.backed.recorded hearned, fun hash hmem => ?_, h.limited,
    fun hash hhash => ?_⟩
  · rw [huser]
    exact h.user.apply hcomputed
  · obtain ⟨b, hb, hof⟩ := h.known hash hmem
    exact ⟨b, subset_recorded r s.now change _ hb, hof⟩
  · rw [huser] at hhash ⊢
    exact h.counted_apply hsound hfresh hash hhash

/-- A comparison is one of five. -/
theorem TurnInv.compare {s : Store} {otp : String} {checkedAt : ℕ}
    (h : TurnInv env s (.comparing otp checkedAt s.user)) (hsound : env.Sound) :
    TurnInv env { s with comparisons := s.user.forgotPasswordOtpHash.getD "" :: s.comparisons }
      (.saving s.user (compared env otp checkedAt s.user) s.now) := by
  obtain ⟨-, hattempts, hash, hhash, b, hb, hof, htime⟩ := h.own
  have hcount : s.comparisons.count hash = s.user.forgotPasswordOtpAttempts := h.counted hash hhash
  have hpending : pending (.saving s.user (compared env otp checkedAt s.user) s.now) = 1 := by
    unfold compared
    split_ifs <;> rfl
  rw [hhash]
  refine ⟨⟨rfl, Nat.le_refl s.now, earned_compared hsound hhash hb hof htime⟩, h.user, h.backed,
    ?_, fun hash' => ?_, fun hash' hhash' => ?_⟩
  · intro hash' hmem
    rcases List.mem_cons.mp hmem with rfl | hmem
    · exact ⟨b, List.mem_of_mem_take hb, hof⟩
    · exact h.known hash' hmem
  · have hlimited := h.limited hash'
    show (hash :: s.comparisons).count hash' ≤ 5
    rw [List.count_cons]
    split_ifs with heq
    · rw [beq_iff_eq.mp heq] at hcount
      omega
    · exact hlimited
  · obtain rfl := Option.some.inj (hhash.symm.trans hhash')
    show (hash :: s.comparisons).count hash = _
    rw [List.count_cons_self, hcount, hpending]

/-- The first step of a request that comes alone. -/
theorem TurnInv.init {s : Store} {phase phase' : Phase} {found : Option User}
    (h : TurnInv env s phase) (hpending : pending phase = 0)
    (hstarted : ∀ user, found = some user → user = s.user)
    (hcases : (∃ response, phase' = .answered response) ∨
      ∃ user, found = some user ∧ phase' = .issuing user) : TurnInv env s phase' := by
  obtain ⟨response, rfl⟩ | ⟨user, hfound, rfl⟩ := hcases
  · exact h.phase trivial hpending.symm
  · exact h.phase (hstarted user hfound) hpending.symm

theorem TurnInv.verify {s : Store} {phase phase' : Phase} {found : Option User} {body : Body}
    (h : TurnInv env s phase) (hpending : pending phase = 0)
    (hstarted : ∀ user, found = some user → user = s.user)
    (hcases : (∃ response, phase' = .answered response) ∨ ∃ user, found = some user ∧
      isOpen s.now user.forgotPasswordOtpHash user.forgotPasswordOtpExpiresAt = true ∧
        (phase' = .saving user .lock s.now ∨ user.forgotPasswordOtpAttempts < 5 ∧
          phase' = .comparing (trim body.otp) s.now user)) : TurnInv env s phase' := by
  obtain ⟨response, rfl⟩ | ⟨user, hfound, hopen, rfl | ⟨hattempts, rfl⟩⟩ := hcases
  · exact h.phase trivial hpending.symm
  · exact h.phase ⟨hstarted user hfound, Nat.le_refl s.now, fun hcounts => nomatch hcounts⟩
      hpending.symm
  · obtain rfl := hstarted user hfound
    exact h.phase ⟨rfl, hattempts, h.user.code.inTime hopen⟩ hpending.symm

theorem TurnInv.reset {s : Store} {phase phase' : Phase} {found : Option User} {body : Body}
    (h : TurnInv env s phase) (hpending : pending phase = 0)
    (hstarted : ∀ user, found = some user → user = s.user)
    (hcases : (∃ response, phase' = .answered response) ∨ ∃ user, found = some user ∧
      isOpen s.now user.forgotPasswordResetTokenHash user.forgotPasswordResetTokenExpiresAt = true ∧
        user.forgotPasswordResetTokenHash =
            some (env.hashLoginSessionToken (trim body.resetToken)) ∧
          phase' = .hashing (trim body.resetToken) body.password s.now user) :
    TurnInv env s phase' := by
  obtain ⟨response, rfl⟩ | ⟨user, hfound, hopen, htoken, rfl⟩ := hcases
  · exact h.phase trivial hpending.symm
  · obtain rfl := hstarted user hfound
    exact h.phase ⟨rfl, backs_of_open h.user hopen htoken⟩ hpending.symm

/-- A step of the only request in flight. -/
theorem TurnInv.act {s : Store} {phase : Phase} {r : ℕ} {action : Action} {result : Store × Phase}
    (h : TurnInv env s phase) (hsound : env.Sound)
    (hfresh : ∀ user change computedAt, phase = .saving user change computedAt →
      Fresh r s.history)
    (hact : PasswordReset.act env r action s phase = some result)
    (hstop : action = .stop → pending phase = 0) :
    TurnInv env result.1 result.2 := by
  revert hact
  fun_cases PasswordReset.act env r action s phase with
  | case1 =>
    rintro ⟨⟩
    exact h.phase trivial (hstop rfl).symm
  | case2 body isFound s =>
    rintro ⟨⟩
    have hcases := forgotPasswordInit_cases s.now body
      (if isFound then some s.user else none)
    generalize forgotPasswordInit s.now body _ = phase' at hcases ⊢
    exact h.init rfl (fun _ => found_eq) hcases
  | case3 body isFound s =>
    rintro ⟨⟩
    have hcases := forgotPasswordVerify_cases s.now body
      (if isFound then some s.user else none)
    generalize forgotPasswordVerify s.now body _ = phase' at hcases ⊢
    exact h.verify rfl (fun _ => found_eq) hcases
  | case4 body isFound s =>
    rintro ⟨⟩
    have hcases := forgotPasswordResetWithOtp_cases env s.now body
      (if isFound then some s.user else none)
    generalize forgotPasswordResetWithOtp env s.now body _ = phase' at hcases ⊢
    exact h.reset rfl (fun _ => found_eq) hcases
  | case5 user =>
    rintro ⟨⟩
    exact h.phase ⟨h.own, Nat.le_refl s.now, fun _ hne => absurd rfl hne⟩ rfl
  | case6 s otp checkedAt user =>
    rintro ⟨⟩
    obtain rfl : user = s.user := h.own.1
    exact h.compare hsound
  | case7 resetToken password checkedAt user =>
    rintro ⟨⟩
    exact h.phase ⟨h.own.1, Nat.le_refl s.now, fun _ _ => h.own.2⟩ rfl
  | case8 s user change computedAt =>
    rintro ⟨⟩
    obtain rfl : user = s.user := h.own.1
    exact h.save hsound (hfresh _ _ _ rfl) _
  | case9 => exact fun hact => nomatch hact

/-- What holds while one request at most is in flight. -/
structure InTurn (env : Env) (passwordHash : Option String) (r : ℕ) (s : System Store Phase) :
    Prop where
  holds : Holds (assertions env passwordHash) s
  others : ∀ r', r' ≠ r → IsIdle (s.phase r')
  inv : TurnInv env s.stored (s.phase r)

theorem InTurn.act {r : ℕ} {s : System Store Phase} (h : InTurn env passwordHash r s)
    (hsound : env.Sound) (action : Action) (hstop : action = .stop → pending (s.phase r) = 0) :
    InTurn env passwordHash r (step (program env) (.act r action) s) := by
  have hholds := holds_step hsound (.act r action) s h.holds
  cases hact : PasswordReset.act env r action s.stored (s.phase r) with
  | none =>
    rw [step_act_none (P := program env) hact] at hholds ⊢
    exact h
  | some result =>
    rw [step_act (P := program env) hact] at hholds ⊢
    refine ⟨hholds, fun r' hr' => ?_, ?_⟩
    · rw [after_phase_of_ne s hr' result]
      exact h.others r' hr'
    · rw [after_phase_self]
      refine h.inv.act hsound (fun user change computedAt hphase => ?_) hact hstop
      have hown := h.holds.own r
      rw [hphase] at hown
      exact hown.1

theorem InTurn.elapse {r : ℕ} {s : System Store Phase} (h : InTurn env passwordHash r s)
    (hsound : env.Sound) (ms : ℕ) :
    InTurn env passwordHash r (step (program env) (.other ⟨ms⟩) s) := by
  have hinv := h.inv
  refine ⟨holds_step hsound _ s h.holds, h.others, ?_, ?_, hinv.backed, hinv.known, hinv.limited,
    hinv.counted⟩
  · show Current env { s.stored with now := s.stored.now + ms } (s.phase r)
    have hown := hinv.own
    cases hphase : s.phase r with
    | saving user change computedAt =>
      rw [hphase] at hown
      exact ⟨hown.1, Nat.le_add_right_of_le hown.2.1, hown.2.2⟩
    | waiting | issuing | comparing | hashing | answered | stopped =>
      rw [hphase] at hown
      exact hown
  · exact hinv.user.mono (List.Subset.refl _) (Nat.le_add_right _ ms)

theorem pending_of_idle {phase : Phase} (h : IsIdle phase) : pending phase = 0 := by
  cases phase with
  | waiting | answered | stopped => rfl
  | issuing | comparing | hashing | saving => exact h.elim

/-- When the request is idle, another one may come. -/
theorem InTurn.next {r : ℕ} {s : System Store Phase} (h : InTurn env passwordHash r s)
    (hidle : IsIdle (s.phase r)) (r' : ℕ) : InTurn env passwordHash r' s := by
  have hall : ∀ q, IsIdle (s.phase q) := by
    intro q
    by_cases hq : q = r
    · rw [hq]
      exact hidle
    · exact h.others q hq
  refine ⟨h.holds, fun q _ => hall q, h.inv.phase ?_ ?_⟩
  · have hr' := hall r'
    cases hphase : s.phase r' with
    | waiting | answered | stopped => trivial
    | issuing | comparing | hashing | saving =>
      rw [hphase] at hr'
      exact hr'.elim
  · rw [pending_of_idle hidle, pending_of_idle (hall r')]

/-- A request that waits for nothing but its save. -/
def IsSettled : Phase → Prop
  | .waiting | .saving _ _ _ | .answered _ | .stopped => True
  | _ => False

/-- A request that has hashed or compared waits for its save at most. -/
theorem computed_phase (env : Env) (r : ℕ) (s : System Store Phase) :
    IsSettled ((step (program env) (.act r .compute) s).phase r) := by
  cases hact : (program env).act r .compute s.stored (s.phase r) with
  | some result =>
    rw [step_act hact, after_phase_self]
    cases hphase : s.phase r with
    | issuing | comparing | hashing =>
      rw [hphase] at hact
      cases hact
      trivial
    | waiting | saving | answered | stopped =>
      rw [hphase] at hact
      exact nomatch hact
  | none =>
    rw [step_act_none hact]
    cases hphase : s.phase r with
    | issuing | comparing | hashing =>
      rw [hphase] at hact
      exact nomatch hact
    | waiting | saving | answered | stopped => trivial

/-- After its save a request is answered. -/
theorem saved_phase (env : Env) {r : ℕ} {s : System Store Phase} (h : IsSettled (s.phase r)) :
    IsIdle ((step (program env) (.act r .save) s).phase r) := by
  cases hact : (program env).act r .save s.stored (s.phase r) with
  | some result =>
    rw [step_act hact, after_phase_self]
    cases hphase : s.phase r with
    | saving =>
      rw [hphase] at hact
      cases hact
      trivial
    | waiting | issuing | comparing | hashing | answered | stopped =>
      rw [hphase] at hact
      exact nomatch hact
  | none =>
    rw [step_act_none hact]
    cases hphase : s.phase r with
    | saving =>
      rw [hphase] at hact
      exact nomatch hact
    | issuing | comparing | hashing =>
      rw [hphase] at h
      exact h.elim
    | waiting | answered | stopped => trivial

/-- A request that comes alone keeps what holds, and leaves no request in flight. -/
theorem inTurn_turn (hsound : env.Sound) (t : Turn) (s : System Store Phase)
    (h : ∀ r, InTurn env passwordHash r s) (r : ℕ) :
    InTurn env passwordHash r (turn env t s) := by
  have hstarted := ((h t.request).elapse hsound t.after).act hsound t.first
  have hpending : pending (s.phase t.request) = 0 :=
    pending_of_idle ((h (t.request + 1)).others t.request (Nat.ne_of_lt t.request.lt_succ_self))
  have hcomputed := ((hstarted fun _ => hpending).elapse hsound t.computeAfter).act hsound .compute
    fun hstop => nomatch hstop
  have hphase := computed_phase env t.request (step (program env) (.other ⟨t.computeAfter⟩)
    (step (program env) (.act t.request t.first) (step (program env) (.other ⟨t.after⟩) s)))
  have hsaved := (hcomputed.elapse hsound t.saveAfter).act hsound .save fun hstop => nomatch hstop
  exact hsaved.next (saved_phase env hphase) r

theorem inTurn_initial {user : User} (hclear : IsClear user) (r : ℕ) :
    InTurn env user.passwordHash r (initial now user) := by
  have hholds : Holds (assertions env user.passwordHash) (initial now user) := holds_initial hclear
  refine ⟨hholds, fun _ _ => trivial, trivial, ?_, ?_, fun _ h => (nomatch h),
    fun _ => Nat.zero_le 5, fun hash hhash => ?_⟩
  · exact ⟨hholds.store.user.code, hholds.store.user.token⟩
  · exact fun record earlier h => nomatch List.eq_nil_of_suffix_nil h
  · exact nomatch hclear.otpHash.symm.trans hhash

/-- A reset with the token of a request. -/
def Record.takes (env : Env) (r : ℕ) (record : Record) : Bool :=
  match record.change with
  | .reset resetToken _ _ => env.hashLoginSessionToken resetToken = env.tokenHash r
  | _ => false

theorem Record.change_of_takes {record : Record} {r : ℕ} (h : record.takes env r = true) :
    ∃ resetToken password checkedAt, record.change = .reset resetToken password checkedAt ∧
      env.hashLoginSessionToken resetToken = env.tokenHash r := by
  unfold Record.takes at h
  split at h
  · exact ⟨_, _, _, ‹_›, of_decide_eq_true h⟩
  · exact nomatch h

/-- The change before a reset with the token of a request is of this request. -/
theorem BackedIn.granted (hsound : env.Sound) (h : BackedIn env lastOf history) {record : Record}
    {earlier : List Record} {r : ℕ} (hsuffix : (record :: earlier) <:+ history)
    (htakes : record.takes env r = true) :
    ∃ b rest, earlier = b :: rest ∧ b.request = r ∧ b.takes env r = false := by
  obtain ⟨resetToken, password, checkedAt, hchange, htoken⟩ := Record.change_of_takes htakes
  obtain ⟨b, hb, hbacks⟩ := h record earlier hsuffix (by rw [hchange]; exact fun hne => nomatch hne)
  rw [hchange] at hbacks
  obtain ⟨⟨otp, time, hgrant⟩, hhash, -⟩ := hbacks
  cases earlier with
  | nil => exact nomatch hb
  | cons first rest =>
    obtain rfl : b = first := List.mem_singleton.mp hb
    refine ⟨b, rest, rfl, hsound.tokens (hhash.trans htoken), ?_⟩
    unfold Record.takes
    rw [hgrant]

/-- Where each reset directly follows the grant of its token, a token is used once at most. -/
theorem BackedIn.countP_takes (hsound : env.Sound) (h : BackedIn env lastOf history)
    (hnodup : (history.map Record.request).Nodup) (r : ℕ) :
    history.countP (Record.takes env r) ≤ 1 := by
  induction history with
  | nil => exact Nat.zero_le 1
  | cons record earlier ih =>
    have hearlier : BackedIn env lastOf earlier :=
      fun record' earlier' hsuffix => h record' earlier' (hsuffix.trans (List.suffix_cons _ _))
    rw [List.map_cons, List.nodup_cons] at hnodup
    by_cases htakes : record.takes env r = true
    · obtain ⟨b, rest, rfl, hb, hnot⟩ := h.granted hsound List.suffix_rfl htakes
      rw [List.countP_cons_of_pos htakes, List.countP_cons_of_neg (by rw [hnot]; decide)]
      -- Another reset with the token would follow another change of the request.
      refine Nat.succ_le_succ (Nat.le_of_eq (List.countP_eq_zero.mpr fun other hother hthen => ?_))
      obtain ⟨before, after, rfl⟩ := List.append_of_mem hother
      have hsuffix : (other :: after) <:+ b :: (before ++ other :: after) :=
        (List.suffix_append before _).trans (List.suffix_cons _ _)
      obtain ⟨b', rest', rfl, hb', -⟩ := hearlier.granted hsound hsuffix hthen
      refine (List.nodup_cons.mp hnodup.2).1 (List.mem_map.mpr ⟨b', ?_, hb'.trans hb.symm⟩)
      exact List.mem_append_right _ (List.mem_cons_of_mem _ List.mem_cons_self)
    · rw [List.countP_cons_of_neg htakes]
      exact ih hearlier hnodup.2

end turns

/-- Each grant directly follows the mail of its code and each reset the grant of its token, so that a
newer code takes the place of both; a token sets one password at most, and a code is compared five
times at most. -/
structure ResetsInTurn (env : Env) (s : Store) : Prop where
  backed : BackedIn env lastOf s.history
  once : ∀ r, s.history.countP (Record.takes env r) ≤ 1
  limited : ∀ r, s.comparisons.count (env.otpHash r) ≤ 5

/-- What holds of resets that are backed holds more closely when the requests come one at a time. -/
theorem resets_in_turn (env : Env) (hsound : env.Sound) (now : ℕ) (user : User)
    (hclear : IsClear user) (turns : List Turn) :
    ∀ s ∈ states (turn env) turns (initial now user), ResetsInTurn env s.stored := by
  intro s hs
  have h := states_keep (inTurn_turn hsound) turns _ (inTurn_initial hclear) s hs 0
  exact ⟨h.inv.backed, h.inv.backed.countP_takes hsound h.holds.store.nodup,
    fun r => h.inv.limited (env.otpHash r)⟩

/-- A code is mailed, and compared once with another one. -/
theorem resets_in_turn_failed :
    let body : Body := { identifier := "X000001", otp := "654321" }
    ResetsInTurn saltedEnv (run (turn saltedEnv)
      [⟨60000, 0, .init body true, 0, 0⟩, ⟨1000, 1, .verify body true, 0, 0⟩]
      (initial 0 {})).stored :=
  resets_in_turn saltedEnv saltedEnv_sound 0 {} ⟨rfl, rfl, rfl, rfl⟩ _ _ (run_mem_states _ _ _)

end Docketra.PasswordReset
