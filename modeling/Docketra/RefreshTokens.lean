import Docketra.Lib.Checked
import Docketra.Lib.Interleaving
import Docketra.Text

/-!
# Refresh tokens

`refreshAccessToken` of `services/authSession.service.js` reads the stored token, checks it, and
later saves it as revoked, whatever is stored by then. Requests that present one refresh token may
all have read it before one of them saves it. So it is used once in the runs in which no request
saves the token when it is revoked already (`single_use`).

A request takes a step between two awaits; an error at an await ends it with status 500. A save may
be applied although the request learns of an error, which is a save before the error.
-/

namespace Docketra.RefreshTokens

open Checked Interleaving Runs

/-- What the checks read of a stored token. -/
structure RefreshToken where
  scope : Option String
  userId : Option String
  firmId : Option String
  expiresAt : ℕ
  isRevoked : Bool
  deriving DecidableEq, Repr

/-- The user that `User.findOne` finds. -/
structure User where
  _id : String
  firmId : String
  role : String
  status : Option String
  deriving DecidableEq, Repr

/-- The answer to a request. -/
structure Response where
  statusCode : ℕ
  message : String
  deriving DecidableEq, Repr

/-- The tokens that a request issues: whose they are, and for which role, firm and scope. -/
structure Issued where
  request : ℕ
  userId : String
  role : String
  firmId : Option String
  scope : String
  deriving DecidableEq, Repr

/-- What is stored, with a record of the tokens that have been issued. -/
structure Store where
  now : ℕ
  storedToken : Option RefreshToken
  issued : List Issued

/-- The session that a token is refreshed for. -/
inductive Session where
  | superadmin (superadminUserId : String)
  | tenant (user : User)

/-- The await that a request has come to. -/
inductive Phase where
  | received
  | findingUser (userId firmId : String)
  | notingUse (session : Session)
  | saving (session : Session)
  | findingFirmSlug (user : User)
  | creating (session : Session)
  | auditing
  | responded (response : Response)

/-- The steps of a request. -/
inductive Action where
  | findToken
  | findUser (user : Option User)
  | noteRefreshTokenUse
  | save
  | getFirmSlug
  | createToken
  | logAuthAudit
  | error

/-- What else happens. -/
inductive Other where
  | wait (milliseconds : ℕ)
  /-- `RefreshToken.updateMany({ userId, isRevoked: false }, { isRevoked: true })`, at a logout or
  when a password is changed. -/
  | revokeTokens (userId : String)

def unauthorized (message : String) : Response := ⟨401, message⟩

def refreshed : Response := ⟨200, "Token refreshed successfully"⟩

def serverError : Response := ⟨500, "Error refreshing token"⟩

/-- The checks of the token that has been found, up to the next await. -/
def checkToken (superadminUserId : Option String) (now : ℕ) :
    Option RefreshToken → Except Response Phase
  | none => .error (unauthorized "Invalid or expired refresh token")
  | some storedToken => do
    throwIf (storedToken.expiresAt ≤ now) (unauthorized "Invalid or expired refresh token")
    throwIf storedToken.isRevoked (unauthorized "Invalid or expired refresh token")
    let tokenScope := toLowerCase (trim (storedToken.scope.getD ""))
    if tokenScope = "superadmin" then
      match superadminUserId with
      | none =>
        .error (unauthorized "Session refresh is not supported for SuperAdmin accounts")
      | some superadminUserId => return .notingUse (.superadmin superadminUserId)
    else
      throwIf (tokenScope ≠ "" ∧ tokenScope ≠ "tenant")
        (unauthorized "Session refresh is not supported for this token scope")
      match storedToken.userId, storedToken.firmId with
      | some userId, some firmId => return .findingUser userId firmId
      | _, _ => .error (unauthorized "Invalid refresh token scope")

/-- `isActiveStatus`. -/
def isActiveStatus (status : Option String) : Bool :=
  status.map (fun text => toLowerCase (trim text)) = some "active"

/-- The check of the user. -/
def checkUser : Option User → Except Response Phase
  | none => .error (unauthorized "User not found or inactive")
  | some user => do
    throwIf (isActiveStatus user.status = false) (unauthorized "User not found or inactive")
    return .notingUse (.tenant user)

/-- A check that fails ends the request. -/
def orRespond : Except Response Phase → Phase
  | .ok phase => phase
  | .error response => .responded response

/-- The tokens of a session. -/
def issue (request : ℕ) : Session → Issued
  | .superadmin superadminUserId => ⟨request, superadminUserId, "SUPERADMIN", none, "superadmin"⟩
  | .tenant user => ⟨request, user._id, user.role, some user.firmId, "tenant"⟩

/-- The steps of `refreshAccessToken`. -/
def act (superadminUserId : Option String) (request : ℕ) :
    Action → Store → Phase → Option (Store × Phase)
  | .findToken, s, .received =>
    some (s, orRespond (checkToken superadminUserId s.now s.storedToken))
  | .findUser user, s, .findingUser _ _ => some (s, orRespond (checkUser user))
  | .noteRefreshTokenUse, s, .notingUse session => some (s, .saving session)
  | .save, s, .saving session =>
    match s.storedToken with
    | none => some (s, .responded serverError)
    | some token =>
      let saved := { s with storedToken := some { token with isRevoked := true } }
      match session with
      | .superadmin _ => some (saved, .creating session)
      | .tenant user => some (saved, .findingFirmSlug user)
  | .getFirmSlug, s, .findingFirmSlug user => some (s, .creating (.tenant user))
  | .createToken, s, .creating session =>
    let created := { s with issued := issue request session :: s.issued }
    match session with
    | .superadmin _ => some (created, .responded refreshed)
    | .tenant _ => some (created, .auditing)
  | .logAuthAudit, s, .auditing => some (s, .responded refreshed)
  | .error, _, .responded _ => none
  | .error, s, _ => some (s, .responded serverError)
  | _, _, _ => none

/-- The update of `revokeTokens`, on one token. -/
def RefreshToken.revokeOf (userId : String) (token : RefreshToken) : RefreshToken :=
  if token.userId = some userId then { token with isRevoked := true } else token

def other : Other → Store → Store
  | .wait milliseconds, s => { s with now := s.now + milliseconds }
  | .revokeTokens userId, s =>
    { s with storedToken := s.storedToken.map (RefreshToken.revokeOf userId) }

/-- Requests that present one refresh token. -/
def program (superadminUserId : Option String) : Program Store Phase Action Other where
  act := act superadminUserId
  other := other

/-! ## What is asked -/

/-- A token is stored, and revoked. -/
def Store.isRevoked (s : Store) : Bool := s.storedToken.any RefreshToken.isRevoked

/-- A request has saved the token as revoked, and not yet issued new ones. -/
def Phase.hasSaved : Phase → Bool
  | .findingFirmSlug _ | .creating _ => true
  | _ => false

/-- A request has used the token: it has saved it, or issued new ones. -/
def HasUsed (s : System Store Phase) (request : ℕ) : Prop :=
  (s.phase request).hasSaved = true ∨ ∃ i ∈ s.stored.issued, i.request = request

/-- Before any request. -/
def initial (now : ℕ) (storedToken : Option RefreshToken) : System Store Phase where
  stored := ⟨now, storedToken, []⟩
  phase _ := .received

/-- In a run, one request at most issues new tokens, and when the token is revoked, only a request
that has used it by then. -/
structure SingleUse (superadminUserId : Option String) (events : List (Event Action Other))
    (s : System Store Phase) : Prop where
  once : (run (step (program superadminUserId)) events s).stored.issued.length ≤ 1
  neverAfter : ∀ before after, events = before ++ after →
    (run (step (program superadminUserId)) before s).stored.isRevoked = true →
    ∀ i ∈ (run (step (program superadminUserId)) events s).stored.issued,
      HasUsed (run (step (program superadminUserId)) before s) i.request

/-- A request saves the token only when it is not revoked. -/
def SavesUnrevoked : Event Action Other → System Store Phase → Prop
  | .act request .save, s =>
    ∀ session, s.phase request = .saving session → s.stored.isRevoked = false
  | _, _ => True

/-! ## What a step does -/

/-- A step changes nothing that is stored, or it saves the token, or it issues new ones. -/
inductive Effect (request : ℕ) (s : Store) (p : Phase) : Action → Store → Phase → Prop where
  | moves {action : Action} {q : Phase} (h : q.hasSaved = true → p.hasSaved = true) :
    Effect request s p action s q
  | saves {token : RefreshToken} {session : Session} {q : Phase} (hp : p = .saving session)
    (htoken : s.storedToken = some token) (hq : q.hasSaved = true) :
    Effect request s p .save { s with storedToken := some { token with isRevoked := true } } q
  | issues {session : Session} {q : Phase} (hp : p.hasSaved = true) (hq : q.hasSaved = false) :
    Effect request s p .createToken { s with issued := issue request session :: s.issued } q

theorem hasSaved_orRespond {result : Except Response Phase}
    (h : ∀ phase, result = .ok phase → phase.hasSaved = false) :
    (orRespond result).hasSaved = false := by
  cases result with
  | error response => rfl
  | ok phase => exact h phase rfl

theorem hasSaved_checkUser (user : Option User) : (orRespond (checkUser user)).hasSaved = false := by
  refine hasSaved_orRespond fun phase h => ?_
  cases user with
  | none => cases h
  | some user =>
    simp only [checkUser, bind_eq_ok] at h
    obtain ⟨-, -, h⟩ := h
    cases h
    rfl

theorem hasSaved_checkToken (superadminUserId : Option String) (now : ℕ)
    (storedToken : Option RefreshToken) :
    (orRespond (checkToken superadminUserId now storedToken)).hasSaved = false := by
  refine hasSaved_orRespond fun phase h => ?_
  cases storedToken with
  | none => cases h
  | some token =>
    simp only [checkToken, bind_eq_ok] at h
    obtain ⟨-, -, -, -, h⟩ := h
    split_ifs at h
    · cases superadminUserId with
      | none => cases h
      | some superadminUserId =>
        cases h
        rfl
    · rw [bind_eq_ok] at h
      obtain ⟨-, -, h⟩ := h
      split at h <;> cases h
      rfl

/-- What the steps of a request do. -/
theorem act_effect {superadminUserId : Option String} {request : ℕ} {action : Action} {s s' : Store}
    {p p' : Phase} (h : act superadminUserId request action s p = some (s', p')) :
    Effect request s p action s' p' := by
  unfold act at h
  split at h
  · cases h
    exact .moves fun hsaved => absurd hsaved (by rw [hasSaved_checkToken]; decide)
  · cases h
    exact .moves fun hsaved => absurd hsaved (by rw [hasSaved_checkUser]; decide)
  · cases h
    exact .moves fun hsaved => hsaved
  · split at h
    · cases h
      exact .moves nofun
    · rename_i session token htoken
      split at h <;> cases h
      · exact .saves rfl htoken rfl
      · exact .saves rfl htoken rfl
  · cases h
    exact .moves fun _ => rfl
  · split at h <;> cases h
    · exact .issues rfl rfl
    · exact .issues rfl rfl
  · cases h
    exact .moves nofun
  · cases h
  · cases h
    exact .moves nofun
  · cases h

/-! ## The invariant -/

/-- The new tokens are issued once, of a token that is revoked, and one request at most is about to
issue them. -/
def assertions : Assertions Store Phase where
  store s := s.issued.length ≤ 1 ∧ (s.issued ≠ [] → s.isRevoked = true)
  own _ s p := p.hasSaved = true → s.isRevoked = true ∧ s.issued = []
  both p q := ¬(p.hasSaved = true ∧ q.hasSaved = true)

theorem isRevoked_saved {s : Store} {token : RefreshToken} :
    ({ s with storedToken := some { token with isRevoked := true } } : Store).isRevoked = true := rfl

theorem isRevoked_other {s : Store} (event : Other) (h : s.isRevoked = true) :
    (other event s).isRevoked = true := by
  cases event with
  | wait milliseconds => exact h
  | revokeTokens userId =>
    obtain ⟨token, htoken, hrevoked⟩ := (Option.any_eq_true _ _).mp h
    have hof : (token.revokeOf userId).isRevoked = true := by
      unfold RefreshToken.revokeOf
      split_ifs
      · rfl
      · exact hrevoked
    show (s.storedToken.map (RefreshToken.revokeOf userId)).any RefreshToken.isRevoked = true
    rw [htoken]
    exact hof

theorem issue_request (request : ℕ) (session : Session) :
    (issue request session).request = request := by
  cases session <;> rfl

theorem issued_other (event : Other) (s : Store) : (other event s).issued = s.issued := by
  cases event <;> rfl

/-- A step keeps the assertions, when a save finds the token unrevoked. -/
theorem holds_step {superadminUserId : Option String} (event : Event Action Other)
    (s : System Store Phase) (h : Holds assertions s) (hok : SavesUnrevoked event s) :
    Holds assertions (step (program superadminUserId) event s) := by
  cases event with
  | other event =>
    refine h.other ⟨?_, fun hne => ?_⟩ fun r hsaved => ?_
    · exact (congrArg List.length (issued_other event s.stored)).trans_le h.store.1
    · rw [show ((program superadminUserId).other event s.stored).issued = s.stored.issued from
        issued_other event s.stored] at hne
      exact isRevoked_other event (h.store.2 hne)
    · exact ⟨isRevoked_other event (h.own r hsaved).1,
        (issued_other event s.stored).trans (h.own r hsaved).2⟩
  | act request action =>
    refine h.act fun result hresult => ?_
    obtain ⟨s', p'⟩ := result
    cases act_effect hresult with
    | moves hmoves =>
      refine ⟨h.store, fun hsaved => h.own request (hmoves hsaved), fun r _ => h.own r,
        fun r hr => ⟨fun hboth => ?_, fun hboth => ?_⟩⟩
      · exact h.both request r (Ne.symm hr) ⟨hmoves hboth.1, hboth.2⟩
      · exact h.both r request hr ⟨hboth.1, hmoves hboth.2⟩
    | saves hp htoken hq =>
      have hunrevoked := hok _ hp
      -- as the token is not revoked, no request has saved it or issued new ones
      have hissued : s.stored.issued = [] := by
        by_contra hne
        rw [h.store.2 hne] at hunrevoked
        cases hunrevoked
      have hnone : ∀ r, ¬(s.phase r).hasSaved = true := by
        intro r hsaved
        rw [(h.own r hsaved).1] at hunrevoked
        cases hunrevoked
      refine ⟨⟨h.store.1, fun _ => isRevoked_saved⟩, fun _ => ⟨isRevoked_saved, hissued⟩,
        fun r _ hsaved => absurd hsaved (hnone r), fun r _ => ⟨?_, ?_⟩⟩
      · exact fun hboth => hnone r hboth.2
      · exact fun hboth => hnone r hboth.1
    | issues hp hq =>
      obtain ⟨hrevoked, hissued⟩ := h.own request hp
      refine ⟨⟨?_, fun _ => hrevoked⟩, fun hsaved => ?_, fun r hr hsaved => ?_, fun r _ => ⟨?_, ?_⟩⟩
      · show (_ :: s.stored.issued).length ≤ 1
        rw [hissued]
        exact le_rfl
      · rw [hq] at hsaved
        cases hsaved
      · exact absurd ⟨hp, hsaved⟩ (h.both request r (Ne.symm hr))
      · exact fun hboth => Bool.false_ne_true (hq.symm.trans hboth.1)
      · exact fun hboth => Bool.false_ne_true (hq.symm.trans hboth.2)

theorem holds_initial (now : ℕ) (storedToken : Option RefreshToken) :
    Holds assertions (initial now storedToken) :=
  ⟨⟨Nat.zero_le 1, fun hne => absurd rfl hne⟩, nofun, fun _ _ _ hboth => nomatch hboth.1⟩

/-- The token is revoked, and only some requests have used it. -/
def usedBy (used : ℕ → Prop) : Assertions Store Phase where
  store s := s.isRevoked = true ∧ ∀ i ∈ s.issued, used i.request
  own r _ p := p.hasSaved = true → used r
  both _ _ := True

/-- When the token is revoked, no other request comes to use it. -/
theorem usedBy_step {superadminUserId : Option String} {used : ℕ → Prop}
    (event : Event Action Other) (s : System Store Phase) (h : Holds (usedBy used) s)
    (hok : SavesUnrevoked event s) :
    Holds (usedBy used) (step (program superadminUserId) event s) := by
  cases event with
  | other event =>
    refine h.other ⟨isRevoked_other event h.store.1, fun i hi => h.store.2 i ?_⟩ h.own
    rw [← issued_other event s.stored]
    exact hi
  | act request action =>
    refine h.act fun result hresult => ?_
    obtain ⟨s', p'⟩ := result
    cases act_effect hresult with
    | moves hmoves =>
      exact ⟨h.store, fun hsaved => h.own request (hmoves hsaved), fun r _ => h.own r,
        fun _ _ => ⟨trivial, trivial⟩⟩
    | saves hp htoken hq =>
      have hunrevoked := hok _ hp
      rw [h.store.1] at hunrevoked
      cases hunrevoked
    | issues hp hq =>
      refine ⟨⟨h.store.1, fun i hi => ?_⟩, fun hsaved => ?_, fun r _ => h.own r,
        fun _ _ => ⟨trivial, trivial⟩⟩
      · rcases List.mem_cons.mp hi with rfl | hi
        · rw [issue_request]
          exact h.own request hp
        · exact h.store.2 i hi
      · rw [hq] at hsaved
        cases hsaved

/-- **In a run in which a request saves the token only when it is not revoked, the token is used
once, and never after it is revoked.** -/
theorem single_use (superadminUserId : Option String) (now : ℕ) (storedToken : Option RefreshToken)
    (events : List (Event Action Other))
    (h : Admits (step (program superadminUserId)) SavesUnrevoked events
      (initial now storedToken)) :
    SingleUse superadminUserId events (initial now storedToken) := by
  constructor
  · exact (run_invariant holds_step events _ (holds_initial now storedToken) h).store.1
  · intro before after hevents hrevoked
    rw [hevents] at h ⊢
    rw [run_append]
    have hused : Holds (usedBy (HasUsed (run (step (program superadminUserId)) before
        (initial now storedToken)))) (run (step (program superadminUserId)) before
          (initial now storedToken)) :=
      ⟨⟨hrevoked, fun i hi => .inr ⟨i, hi, rfl⟩⟩, fun _ hsaved => .inl hsaved,
        fun _ _ _ => trivial⟩
    exact (run_invariant usedBy_step after _ hused
      ((admits_append before after _).mp h).2).store.2

/-! ## Two requests -/

/-- A user's token. -/
def tenantToken : RefreshToken where
  scope := some "tenant"
  userId := some "65f0c3a2b1d4e5f60718293a"
  firmId := some "FIRM001"
  expiresAt := 1000
  isRevoked := false

def activeUser : User where
  _id := "65f0c3a2b1d4e5f60718293a"
  firmId := "FIRM001"
  role := "USER"
  status := some "active"

/-- The steps of a request of the user, up to the answer. -/
def refreshes (request : ℕ) : List (Event Action Other) :=
  [.findToken, .findUser (some activeUser), .noteRefreshTokenUse, .save, .getFirmSlug, .createToken,
    .logAuthAudit].map (Event.act request)

/-- A second request that comes after the first. -/
theorem single_use_in_turn :
    SingleUse none (refreshes 0 ++ [Event.act 1 Action.findToken]) (initial 0 (some tenantToken)) :=
  single_use none 0 (some tenantToken) (refreshes 0 ++ [Event.act 1 Action.findToken])
    ⟨trivial, trivial, trivial, fun _ _ => rfl, trivial, trivial, trivial, trivial, trivial⟩

/-- Two requests have read the token before one of them saves it, and both issue new tokens. -/
theorem single_use_fails :
    ¬ SingleUse none
      (.act 0 .findToken :: .act 1 .findToken :: ((refreshes 0).drop 1 ++ (refreshes 1).drop 1))
      (initial 0 (some tenantToken)) := by
  intro h
  exact absurd h.once (by decide)

end Docketra.RefreshTokens
