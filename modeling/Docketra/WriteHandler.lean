import Docketra.Express
import Mathlib.Data.Int.Notation
import Mathlib.Tactic.Common

/-!
# Controllers inside a transaction

`middleware/wrapWriteHandler.js` over `utils/executeWrite.js`. A controller runs inside
`session.withTransaction`, which calls it again when it, or the commit, fails with a transient
error. The response object is the same throughout, and no abort undoes what was done to it.

The controller and the driver are arbitrary. They are given by the list of attempts that the driver
would make: what the controller does to the response in each of them, how it ends, and what becomes
of the commit, should it come to one.

The last attempt that is made decides everything exactly when it is `Sound` on the response as the
earlier ones have left it (`wrapWriteHandler_truthful_iff`).
-/

namespace Docketra.WriteHandler

/-! ## Controllers and attempts -/

/-- An exception. `transient` is the label that makes the driver try again. -/
structure Thrown where
  message : String
  transient : Bool := false
  deriving DecidableEq, Repr

/-- A value that a controller returns: its own `statusCode`, if it is an integer, and the JSON text of
what is sent of it. -/
structure Result where
  statusCode : Option ℤ := none
  payload : String
  deriving DecidableEq, Repr

/-- What a controller does to the response. `res.json` throws when a body has been sent already,
and the controller may catch that. -/
inductive Action where
  | status (statusCode : StatusCode)
  | json (body : String) (caught : Bool := false)
  deriving DecidableEq

/-- How a controller ends. It may return `undefined`. -/
inductive Outcome where
  | returned (result : Option Result)
  | threw (error : Thrown)
  deriving DecidableEq, Repr

/-- What becomes of a commit. -/
inductive Commit where
  | committed
  | failed (error : Thrown)
  deriving DecidableEq, Repr

/-- One call of the controller, and the commit after it. -/
structure Attempt where
  actions : List Action
  outcome : Outcome
  commit : Commit := .committed
  deriving DecidableEq

/-- A body, and the attempt that it comes from. -/
abbrev SentBody := ℕ × String

/-- `res.json` after the headers have been sent. -/
def headersSentError : Thrown := { message := "ERR_HTTP_HEADERS_SENT" }

/-- What the actions of attempt `n` make of the response, and the error that stops them. -/
def perform (n : ℕ) : List Action → Res SentBody → Res SentBody × Option Thrown
  | [], res => (res, none)
  | .status statusCode :: actions, res => perform n actions (res.status statusCode)
  | .json body caught :: actions, res =>
    if res.headersSent then
      if caught then perform n actions res else (res, some headersSentError)
    else perform n actions (res.json (n, body))

/-- The controller, in attempt `n`. -/
def controller (n : ℕ) (a : Attempt) (res : Res SentBody) : Res SentBody × Outcome :=
  match perform n a.actions res with
  | (res, none) => (res, a.outcome)
  | (res, some error) => (res, .threw error)

/-! ## `executeWrite` -/

/-- The exceptions that leave the callback of `withTransaction`. -/
inductive WriteError where
  | thrown (error : Thrown)
  | TransactionRollback (result : Option Result)
  deriving DecidableEq, Repr

/-- `resolveResponseStatus`. -/
def resolveResponseStatus (res : Res SentBody) (result : Option Result) : ℤ :=
  (result.bind Result.statusCode).getD res.statusCode

/-- The callback of `withTransaction`. -/
def callback (n : ℕ) (a : Attempt) (res : Res SentBody) :
    Res SentBody × Except WriteError (Option Result) :=
  match controller n a res with
  | (res, .threw error) => (res, .error (.thrown error))
  | (res, .returned handlerResult) =>
    if 400 ≤ resolveResponseStatus res handlerResult then
      (res, .error (.TransactionRollback handlerResult))
    else (res, .ok handlerResult)

/-- What the driver does after a call of the callback. -/
inductive Verdict where
  | done (result : Option Result)
  | retry (error : WriteError)
  | fail (error : WriteError)
  deriving DecidableEq, Repr

/-- What the driver makes of an exception: another attempt if it is transient. -/
def verdictOn (error : Thrown) : Verdict :=
  if error.transient then .retry (.thrown error) else .fail (.thrown error)

/-- What the driver makes of the callback's end, and of the commit if there is one. -/
def verdict (commit : Commit) : Except WriteError (Option Result) → Verdict
  | .error (.thrown error) => verdictOn error
  | .error (.TransactionRollback result) => .fail (.TransactionRollback result)
  | .ok result =>
    match commit with
    | .committed => .done result
    | .failed error => verdictOn error

/-- `session.withTransaction`, from attempt `n` on. After the last of the attempts the driver gives
up. -/
def withTransaction : ℕ → Attempt → List Attempt → Res SentBody →
    Res SentBody × Except WriteError (Option Result)
  | n, a, [], res =>
    match verdict a.commit (callback n a res).2 with
    | .done result => ((callback n a res).1, .ok result)
    | .retry error => ((callback n a res).1, .error error)
    | .fail error => ((callback n a res).1, .error error)
  | n, a, b :: rest, res =>
    match verdict a.commit (callback n a res).2 with
    | .done result => ((callback n a res).1, .ok result)
    | .retry _ => withTransaction (n + 1) b rest (callback n a res).1
    | .fail error => ((callback n a res).1, .error error)

/-- How `executeWrite` has ended: what it returned or threw, and whether it has committed. -/
structure Written where
  result : Except Thrown (Option Result)
  transactionCommitted : Bool
  deriving DecidableEq

/-- What `executeWrite` makes of the end of `withTransaction`. -/
def written : Except WriteError (Option Result) → Written
  | .ok result => ⟨.ok result, true⟩
  -- The result of a transaction that was rolled back is returned like any other.
  | .error (.TransactionRollback result) => ⟨.ok result, false⟩
  | .error (.thrown error) => ⟨.error error, false⟩

/-- Whether `executeWrite` has a transaction. -/
inductive SessionStart where
  /-- `req.skipTransaction`, or no session could be started. -/
  | none
  | started
  deriving DecidableEq, Repr

/-- `executeWrite`. Without a transaction the controller is called once, and nothing is checked. -/
def executeWrite (session : SessionStart) (first : Attempt) (rest : List Attempt)
    (res : Res SentBody) : Res SentBody × Written :=
  match session with
  | .started =>
    ((withTransaction 0 first rest res).1, written (withTransaction 0 first rest res).2)
  | .none =>
    match controller 0 first res with
    | (res, .returned result) => (res, ⟨.ok result, false⟩)
    | (res, .threw error) => (res, ⟨.error error, false⟩)

/-! ## `wrapWriteHandler` -/

/-- What a request comes to: the response that is sent, the error that `next` is called with, and
whether the transaction has committed. -/
structure Exchange where
  sent : Option (ℕ × SentBody)
  next : Option Thrown
  transactionCommitted : Bool
  deriving DecidableEq

/-- `res.status` with a status that the server does not accept. -/
def invalidStatusError : Thrown := { message := "ERR_HTTP_INVALID_STATUS_CODE" }

/-- What `wrapWriteHandler` does after `executeWrite`, the last attempt of which was `n`. -/
def respond (n : ℕ) (res : Res SentBody) (w : Written) : Exchange :=
  match w.result with
  | .error error => ⟨res.sent, some error, w.transactionCommitted⟩
  | .ok result =>
    match res.headersSent, result with
    | true, _ => ⟨res.sent, none, w.transactionCommitted⟩
    | false, none => ⟨none, none, w.transactionCommitted⟩
    | false, some result =>
      let statusCode := result.statusCode.getD 200
      if 100 ≤ statusCode ∧ statusCode ≤ 999 then
        ⟨some (statusCode.toNat, n, result.payload), none, w.transactionCommitted⟩
      else ⟨none, some invalidStatusError, w.transactionCommitted⟩

/-- The last attempt that the driver makes, and the response as it finds it. -/
structure LastAttempt where
  n : ℕ
  attempt : Attempt
  res : Res SentBody

/-- The last attempt, of those from attempt `n` on. -/
def lastAttempt : ℕ → Attempt → List Attempt → Res SentBody → LastAttempt
  | n, a, [], res => ⟨n, a, res⟩
  | n, a, b :: rest, res =>
    match verdict a.commit (callback n a res).2 with
    | .retry _ => lastAttempt (n + 1) b rest (callback n a res).1
    | _ => ⟨n, a, res⟩

/-- The exception of a wrapped handler inside another one. -/
def nestedError : Thrown := { message := "Nested transaction wrapper detected" }

/-- `wrapWriteHandler`. `nested` tells whether the request is in a transaction already. -/
def wrapWriteHandler (nested : Bool) (session : SessionStart) (first : Attempt)
    (rest : List Attempt) (res : Res SentBody) : Exchange :=
  if nested then ⟨res.sent, some nestedError, false⟩
  else
    let (res', w) := executeWrite session first rest res
    respond (lastAttempt 0 first rest res).n res' w

/-! ## What is asked of an exchange -/

/-- One response is sent, or `next` is called; and what is sent as a success has been committed. -/
structure Truthful (x : Exchange) : Prop where
  one : (x.sent ≠ none ∧ x.next = none) ∨ (x.sent = none ∧ x.next ≠ none)
  committed : ∀ statusCode body, x.sent = some (statusCode, body) → statusCode < 400 →
    x.transactionCommitted = true

/-- What a request comes to when attempt `n` is made alone, on a given response. -/
def finish (n : ℕ) (a : Attempt) (res : Res SentBody) : Exchange :=
  respond n (withTransaction n a [] res).1 (written (withTransaction n a [] res).2)

/-- The controller sets the status before it does anything else to the response. -/
def setsStatus : List Action → Bool
  | .status _ :: _ => true
  | _ => false

/-- An attempt ends well, given the response after it. -/
def EndsWell (a : Attempt) (after : Res SentBody) : Outcome → Prop
  -- It throws before it has sent anything.
  | .threw _ => after.sent = none
  | .returned result =>
    match after.sent, result with
    -- It sends and returns nothing, and the commit fails.
    | none, none => after.statusCode < 400 ∧ a.commit ≠ .committed
    -- It returns a value, which says its status, or else the response has no status of an error.
    | none, some result => result.statusCode ≠ none ∨ after.statusCode < 400
    -- It sends a response: an error when the transaction is rolled back, and otherwise the commit
    -- does not fail.
    | some (statusCode, _), result =>
      if 400 ≤ resolveResponseStatus after result then 400 ≤ statusCode else a.commit = .committed

/-- What the last attempt must meet, on the response as the earlier ones have left it. -/
structure Sound (n : ℕ) (a : Attempt) (res : Res SentBody) : Prop where
  /-- No earlier attempt has sent anything. -/
  unsent : res.sent = none
  ends : EndsWell a (controller n a res).1 (controller n a res).2
  /-- What it sends is not sent with a status that an earlier attempt has left. -/
  ownStatus : (controller n a res).1.sent ≠ none → res.statusCode = 200 ∨ setsStatus a.actions = true

/-! ## The attempts before the last -/

/-- What was sent before attempt `n` comes from an earlier one. -/
def SentBefore (n : ℕ) (res : Res SentBody) : Prop :=
  ∀ statusCode i body, res.sent = some (statusCode, i, body) → i < n

/-- What has been sent stays sent. -/
theorem perform_sent_of_some {n : ℕ} {actions : List Action} {res : Res SentBody}
    {s : ℕ × SentBody} (h : res.sent = some s) : (perform n actions res).1.sent = some s := by
  induction actions generalizing res with
  | nil => exact h
  | cons action actions ih =>
    cases action with
    | status statusCode => exact ih h
    | json body caught =>
      unfold perform
      rw [if_pos (by simp [Res.headersSent, h])]
      split_ifs
      · exact ih h
      · exact h

/-- What an attempt sends, where nothing has been sent, comes from it. -/
theorem perform_sent_of_none {n : ℕ} {actions : List Action} {res : Res SentBody}
    (h : res.sent = none) : (perform n actions res).1.sent = none ∨
      ∃ statusCode body, (perform n actions res).1.sent = some (statusCode, n, body) := by
  induction actions generalizing res with
  | nil => exact .inl h
  | cons action actions ih =>
    cases action with
    | status statusCode => exact ih h
    | json body caught =>
      unfold perform
      rw [if_neg (by simp [Res.headersSent, h])]
      exact .inr ⟨_, _, perform_sent_of_some rfl⟩

/-- The controller does to the response what its actions do. -/
theorem controller_fst (n : ℕ) (a : Attempt) (res : Res SentBody) :
    (controller n a res).1 = (perform n a.actions res).1 := by
  unfold controller
  rcases perform n a.actions res with ⟨after, _ | error⟩ <;> rfl

/-- The callback does nothing to the response beside. -/
theorem callback_fst (n : ℕ) (a : Attempt) (res : Res SentBody) :
    (callback n a res).1 = (perform n a.actions res).1 := by
  rw [← controller_fst]
  unfold callback
  rcases controller n a res with ⟨after, result | error⟩
  · dsimp only
    split_ifs <;> rfl
  · rfl

/-- What was sent before the next attempt comes from this one or an earlier one. -/
theorem SentBefore.callback {n : ℕ} {res : Res SentBody} (h : SentBefore n res) (a : Attempt) :
    SentBefore (n + 1) (callback n a res).1 := by
  intro statusCode i body hsent
  rw [callback_fst] at hsent
  cases hres : res.sent with
  | some s =>
    rw [perform_sent_of_some hres, Option.some.injEq] at hsent
    have := h statusCode i body (hsent ▸ hres)
    omega
  | none =>
    have hperform : (perform n a.actions res).1.sent = none ∨
        ∃ statusCode body, (perform n a.actions res).1.sent = some (statusCode, n, body) :=
      perform_sent_of_none hres
    rcases hperform with hnone | ⟨_, _, hsome⟩
    · rw [hnone] at hsent
      cases hsent
    · rw [hsome] at hsent
      cases hsent
      omega

/-- The run ends as its last attempt alone would, on the response as it finds it. -/
theorem withTransaction_last : ∀ (n : ℕ) (a : Attempt) (rest : List Attempt) (res : Res SentBody),
    withTransaction n a rest res =
      withTransaction (lastAttempt n a rest res).n (lastAttempt n a rest res).attempt []
        (lastAttempt n a rest res).res
  | _, _, [], _ => rfl
  | n, a, b :: rest, res => by
    unfold withTransaction lastAttempt
    cases hverdict : verdict a.commit (callback n a res).2 with
    | retry error => exact withTransaction_last (n + 1) b rest (callback n a res).1
    | done result => simp only [hverdict]
    | fail error => simp only [hverdict]

/-- What was sent before the last attempt comes from an earlier one. -/
theorem SentBefore.lastAttempt : ∀ (n : ℕ) (a : Attempt) (rest : List Attempt) {res : Res SentBody},
    SentBefore n res →
      SentBefore (lastAttempt n a rest res).n (lastAttempt n a rest res).res
  | _, _, [], _, h => h
  | n, a, b :: rest, res, h => by
    unfold WriteHandler.lastAttempt
    cases hverdict : verdict a.commit (WriteHandler.callback n a res).2 with
    | retry error => exact SentBefore.lastAttempt (n + 1) b rest (h.callback a)
    | done result => exact h
    | fail error => exact h

/-! ## The last attempt -/

/-- What a request comes to, by how the controller ends in the only attempt. -/
theorem finish_of_threw {n : ℕ} {a : Attempt} {res after : Res SentBody} {error : Thrown}
    (h : controller n a res = (after, .threw error)) :
    finish n a res = ⟨after.sent, some error, false⟩ := by
  unfold finish withTransaction callback
  rw [h]
  dsimp only [verdict]
  unfold verdictOn
  split_ifs <;> rfl

theorem finish_of_rollback {n : ℕ} {a : Attempt} {res after : Res SentBody}
    {result : Option Result} (h : controller n a res = (after, .returned result))
    (hstatus : 400 ≤ resolveResponseStatus after result) :
    finish n a res = respond n after ⟨.ok result, false⟩ := by
  unfold finish withTransaction callback
  rw [h]
  dsimp only
  rw [if_pos hstatus]
  rfl

theorem finish_of_committed {n : ℕ} {a : Attempt} {res after : Res SentBody}
    {result : Option Result} (h : controller n a res = (after, .returned result))
    (hstatus : ¬400 ≤ resolveResponseStatus after result) (hcommit : a.commit = .committed) :
    finish n a res = respond n after ⟨.ok result, true⟩ := by
  unfold finish withTransaction callback
  rw [h]
  dsimp only
  rw [if_neg hstatus, hcommit]
  rfl

theorem finish_of_failed {n : ℕ} {a : Attempt} {res after : Res SentBody}
    {result : Option Result} {error : Thrown} (h : controller n a res = (after, .returned result))
    (hstatus : ¬400 ≤ resolveResponseStatus after result) (hcommit : a.commit = .failed error) :
    finish n a res = ⟨after.sent, some error, false⟩ := by
  unfold finish withTransaction callback
  rw [h]
  dsimp only
  rw [if_neg hstatus, hcommit]
  dsimp only [verdict]
  unfold verdictOn
  split_ifs <;> rfl

/-- The response of a request is the one that was sent, or that of the last attempt's result. -/
theorem respond_sent (n : ℕ) (res : Res SentBody) (w : Written) :
    (respond n res w).sent = res.sent ∨
      (res.sent = none ∧ ∃ statusCode body, (respond n res w).sent = some (statusCode, n, body)) := by
  obtain ⟨statusCode, sent⟩ := res
  obtain ⟨error | result, committed⟩ := w
  · exact .inl rfl
  · cases sent with
    | some s => exact .inl rfl
    | none =>
      cases result with
      | none => exact .inl rfl
      | some result =>
        unfold respond
        dsimp only [Res.headersSent, Option.isSome]
        split_ifs
        · exact .inr ⟨rfl, _, _, rfl⟩
        · exact .inl rfl

theorem finish_sent (n : ℕ) (a : Attempt) (res : Res SentBody) :
    (finish n a res).sent = (controller n a res).1.sent ∨
      ((controller n a res).1.sent = none ∧
        ∃ statusCode body, (finish n a res).sent = some (statusCode, n, body)) := by
  rcases hcontroller : controller n a res with ⟨after, result | error⟩
  · by_cases hstatus : 400 ≤ resolveResponseStatus after result
    · rw [finish_of_rollback hcontroller hstatus]
      exact respond_sent n after _
    · cases hcommit : a.commit with
      | committed =>
        rw [finish_of_committed hcontroller hstatus hcommit]
        exact respond_sent n after _
      | failed error =>
        rw [finish_of_failed hcontroller hstatus hcommit]
        exact .inl rfl
  · rw [finish_of_threw hcontroller]
    exact .inl rfl

/-- What was sent before an attempt is the response of the request. -/
theorem finish_sent_of_some {n : ℕ} {a : Attempt} {res : Res SentBody} {s : ℕ × SentBody}
    (h : res.sent = some s) : (finish n a res).sent = some s := by
  have hafter : (controller n a res).1.sent = some s := by
    rw [controller_fst]
    exact perform_sent_of_some h
  rcases finish_sent n a res with hsent | ⟨hnone, -⟩
  · rw [hsent, hafter]
  · rw [hafter] at hnone
    cases hnone

/-- What a request sends when nothing was sent before its last attempt comes from that attempt. -/
theorem finish_sent_of_none {n : ℕ} {a : Attempt} {res : Res SentBody} (h : res.sent = none) :
    (finish n a res).sent = none ∨
      ∃ statusCode body, (finish n a res).sent = some (statusCode, n, body) := by
  have hperform : (perform n a.actions res).1.sent = none ∨
      ∃ statusCode body, (perform n a.actions res).1.sent = some (statusCode, n, body) :=
    perform_sent_of_none h
  rw [← controller_fst] at hperform
  rcases finish_sent n a res with hsent | ⟨-, hsome⟩
  · rw [hsent]
    exact hperform
  · exact .inr hsome

/-- An exchange with a response that nothing has been wrong with. -/
theorem truthful_sent {s : ℕ × SentBody} {committed : Bool} :
    Truthful ⟨some s, none, committed⟩ ↔ (s.1 < 400 → committed = true) := by
  constructor
  · intro h hstatus
    exact h.committed s.1 s.2 rfl hstatus
  · intro h
    refine ⟨.inl ⟨nofun, rfl⟩, ?_⟩
    rintro statusCode body hs
    rw [Option.some.injEq] at hs
    rw [hs] at h
    exact h

/-- An exchange without a response is truthful when `next` is called. -/
theorem truthful_unsent {next : Option Thrown} {committed : Bool} :
    Truthful ⟨none, next, committed⟩ ↔ next ≠ none := by
  constructor
  · rintro ⟨⟨hsent, -⟩ | ⟨-, hnext⟩, -⟩
    · exact absurd rfl hsent
    · exact hnext
  · exact fun hnext => ⟨.inr ⟨rfl, hnext⟩, nofun⟩

/-- An exchange with a response, for which `next` is called as well, is not truthful. -/
theorem not_truthful_both {s : ℕ × SentBody} {error : Thrown} {committed : Bool} :
    ¬Truthful ⟨some s, some error, committed⟩ := by
  rintro ⟨⟨-, hnext⟩ | ⟨hsent, -⟩, -⟩
  · cases hnext
  · cases hsent

/-- A result that is sent after a rollback has the status of an error. -/
theorem truthful_respond_rollback (n status : ℕ) (result : Result)
    (hstatus : 400 ≤ resolveResponseStatus ⟨status, none⟩ (some result)) :
    Truthful (respond n ⟨status, none⟩ ⟨.ok (some result), false⟩) ↔ result.statusCode ≠ none := by
  unfold respond
  dsimp only [Res.headersSent, Option.isSome]
  cases hcode : result.statusCode with
  | none =>
    rw [Option.getD_none, if_pos (by decide), truthful_sent]
    simp
  | some code =>
    have hcode' : 400 ≤ code := by
      unfold resolveResponseStatus at hstatus
      rwa [Option.bind_some, hcode, Option.getD_some] at hstatus
    rw [Option.getD_some]
    split_ifs
    · rw [truthful_sent]
      simp
      omega
    · rw [truthful_unsent]
      simp

/-- A result that is sent after a commit may have any status. -/
theorem truthful_respond_committed (n status : ℕ) (result : Result) :
    Truthful (respond n ⟨status, none⟩ ⟨.ok (some result), true⟩) := by
  unfold respond
  dsimp only [Res.headersSent, Option.isSome]
  split_ifs
  · exact truthful_sent.mpr fun _ => rfl
  · exact truthful_unsent.mpr nofun

/-- A result that does not roll the transaction back says its status, or the response has none of an
error. -/
theorem statusCode_or_lt {status : ℕ} {result : Result}
    (hstatus : ¬400 ≤ resolveResponseStatus ⟨status, none⟩ (some result)) :
    result.statusCode ≠ none ∨ status < 400 := by
  by_cases hnone : result.statusCode = none
  · simp only [resolveResponseStatus, Option.bind_some, hnone, Option.getD_none] at hstatus
    exact .inr (by omega)
  · exact .inl hnone

/-- A transaction that the status rolls back. -/
theorem truthful_rollback_iff {n status : ℕ} {a : Attempt} {res : Res SentBody}
    {sent : Option (ℕ × SentBody)} {result : Option Result}
    (h : controller n a res = (⟨status, sent⟩, .returned result))
    (hstatus : 400 ≤ resolveResponseStatus ⟨status, sent⟩ result) :
    Truthful (finish n a res) ↔ EndsWell a ⟨status, sent⟩ (.returned result) := by
  rw [finish_of_rollback h hstatus]
  match sent, result with
  | some s, result =>
    show Truthful ⟨some s, none, false⟩ ↔ (if _ then 400 ≤ s.1 else _)
    rw [if_pos hstatus, truthful_sent]
    simp
  | none, none =>
    have herror : (400 : ℤ) ≤ status := hstatus
    show Truthful ⟨none, none, false⟩ ↔ status < 400 ∧ _
    rw [truthful_unsent]
    simp
    omega
  | none, some result =>
    rw [truthful_respond_rollback n status result hstatus]
    show _ ↔ result.statusCode ≠ none ∨ status < 400
    refine ⟨.inl, fun h => h.elim id fun hlt hnone => ?_⟩
    simp only [resolveResponseStatus, Option.bind_some, hnone, Option.getD_none] at hstatus
    omega

/-- A transaction that is committed. -/
theorem truthful_committed_iff {n status : ℕ} {a : Attempt} {res : Res SentBody}
    {sent : Option (ℕ × SentBody)} {result : Option Result}
    (h : controller n a res = (⟨status, sent⟩, .returned result))
    (hstatus : ¬400 ≤ resolveResponseStatus ⟨status, sent⟩ result)
    (hcommit : a.commit = .committed) :
    Truthful (finish n a res) ↔ EndsWell a ⟨status, sent⟩ (.returned result) := by
  rw [finish_of_committed h hstatus hcommit]
  match sent, result with
  | some s, result =>
    show Truthful ⟨some s, none, true⟩ ↔ (if _ then _ else a.commit = Commit.committed)
    rw [if_neg hstatus, truthful_sent, hcommit]
    simp
  | none, none =>
    show Truthful ⟨none, none, true⟩ ↔ _ ∧ a.commit ≠ .committed
    rw [truthful_unsent, hcommit]
    simp
  | none, some result =>
    exact iff_of_true (truthful_respond_committed n status result) (statusCode_or_lt hstatus)

/-- A transaction whose commit fails. -/
theorem truthful_failed_iff {n status : ℕ} {a : Attempt} {res : Res SentBody}
    {sent : Option (ℕ × SentBody)} {result : Option Result} {error : Thrown}
    (h : controller n a res = (⟨status, sent⟩, .returned result))
    (hstatus : ¬400 ≤ resolveResponseStatus ⟨status, sent⟩ result)
    (hcommit : a.commit = .failed error) :
    Truthful (finish n a res) ↔ EndsWell a ⟨status, sent⟩ (.returned result) := by
  rw [finish_of_failed h hstatus hcommit]
  match sent, result with
  | some s, result =>
    refine iff_of_false not_truthful_both ?_
    show ¬(if _ then _ else a.commit = Commit.committed)
    rw [if_neg hstatus, hcommit]
    nofun
  | none, none =>
    have hlt : ¬(400 : ℤ) ≤ status := hstatus
    refine iff_of_true (truthful_unsent.mpr nofun) ⟨show status < 400 by omega, ?_⟩
    rw [hcommit]
    nofun
  | none, some result =>
    exact iff_of_true (truthful_unsent.mpr nofun) (statusCode_or_lt hstatus)

/-- A request whose only attempt ends well is answered truthfully, and no other one is. -/
theorem truthful_finish_iff (n : ℕ) (a : Attempt) (res : Res SentBody) :
    Truthful (finish n a res) ↔ EndsWell a (controller n a res).1 (controller n a res).2 := by
  rcases hcontroller : controller n a res with ⟨⟨status, sent⟩, result | error⟩
  · by_cases hstatus : 400 ≤ resolveResponseStatus ⟨status, sent⟩ result
    · exact truthful_rollback_iff hcontroller hstatus
    · cases hcommit : a.commit with
      | committed => exact truthful_committed_iff hcontroller hstatus hcommit
      | failed error => exact truthful_failed_iff hcontroller hstatus hcommit
  · rw [finish_of_threw hcontroller]
    show Truthful ⟨sent, some error, false⟩ ↔ sent = none
    cases sent with
    | none => exact iff_of_true (truthful_unsent.mpr nofun) rfl
    | some s => exact iff_of_false not_truthful_both nofun

/-! ## What an earlier attempt leaves -/

/-- An attempt that sets the status first does not see the status that was left. -/
theorem controller_of_setsStatus {n : ℕ} {a : Attempt} {res : Res SentBody}
    (hunsent : res.sent = none) (h : setsStatus a.actions = true) :
    controller n a res = controller n a {} := by
  obtain ⟨statusCode, sent⟩ := res
  obtain ⟨actions, outcome, commit⟩ := a
  dsimp only at hunsent
  subst hunsent
  match actions, h with
  | .status code :: actions, _ => rfl

/-- An attempt that does nothing to the response leaves it as it was. -/
theorem controller_of_nil {n : ℕ} {a : Attempt} (h : a.actions = []) (res : Res SentBody) :
    controller n a res = (res, a.outcome) := by
  unfold controller
  rw [h]
  rfl

/-- An attempt that does not set the status first does nothing to the response, or sends it with the
status that was left. -/
theorem controller_sent_of_not_setsStatus {n : ℕ} {a : Attempt} {res : Res SentBody}
    (hunsent : res.sent = none) (h : setsStatus a.actions = false) :
    a.actions = [] ∨ ∃ body, (controller n a res).1.sent = some (res.statusCode, n, body) := by
  rw [controller_fst]
  obtain ⟨actions, outcome, commit⟩ := a
  match actions, h with
  | [], _ => exact .inl rfl
  | .json body caught :: actions, _ =>
    refine .inr ⟨body, ?_⟩
    unfold perform
    rw [if_neg (by simp [Res.headersSent, hunsent])]
    exact perform_sent_of_some rfl

/-- A request ends by what its only attempt does. -/
theorem finish_congr {n : ℕ} {a : Attempt} {res res' : Res SentBody}
    (h : controller n a res = controller n a res') : finish n a res = finish n a res' := by
  unfold finish withTransaction callback
  rw [h]

/-- A response that has not been sent is answered the same with any status on it. -/
theorem respond_unsent (n statusCode : ℕ) (w : Written) :
    respond n ⟨statusCode, none⟩ w = respond n {} w := by
  obtain ⟨error | _ | result, committed⟩ := w <;> rfl

/-- When an attempt that sends nothing ends well, its status decides as it would alone. -/
theorem resolveResponseStatus_alone {a : Attempt} {status : ℕ} {result : Option Result}
    (hends : EndsWell a ⟨status, none⟩ (.returned result)) :
    400 ≤ resolveResponseStatus ⟨status, none⟩ result ↔ 400 ≤ resolveResponseStatus {} result := by
  unfold resolveResponseStatus
  cases result with
  | none =>
    have hstatus : status < 400 := hends.1
    simp
    omega
  | some result =>
    have hstatus : result.statusCode ≠ none ∨ status < 400 := hends
    rw [Option.bind_some]
    cases hcode : result.statusCode with
    | none =>
      have hlt : status < 400 := hstatus.resolve_left (absurd hcode)
      simp
      omega
    | some code => rfl

/-- When an attempt that does nothing to the response ends well, no status that was left on it has
made a difference. -/
theorem finish_of_nil {n : ℕ} {a : Attempt} {res : Res SentBody} (hactions : a.actions = [])
    (hunsent : res.sent = none) (hends : EndsWell a res a.outcome) :
    finish n a res = finish n a {} := by
  obtain ⟨status, sent⟩ := res
  dsimp only at hunsent
  subst hunsent
  have hleft := controller_of_nil (n := n) hactions ⟨status, none⟩
  have halone := controller_of_nil (n := n) hactions {}
  cases houtcome : a.outcome with
  | threw error =>
    rw [houtcome] at hleft halone
    rw [finish_of_threw hleft, finish_of_threw halone]
  | returned result =>
    rw [houtcome] at hleft halone hends
    have hsame := resolveResponseStatus_alone hends
    by_cases hstatus : 400 ≤ resolveResponseStatus ⟨status, none⟩ result
    · rw [finish_of_rollback hleft hstatus, finish_of_rollback halone (hsame.mp hstatus),
        respond_unsent]
    · cases hcommit : a.commit with
      | committed =>
        rw [finish_of_committed hleft hstatus hcommit,
          finish_of_committed halone (mt hsame.mpr hstatus) hcommit, respond_unsent]
      | failed error =>
        rw [finish_of_failed hleft hstatus hcommit,
          finish_of_failed halone (mt hsame.mpr hstatus) hcommit]

/-- A response that an earlier attempt has sent is not the one that the last attempt sends alone. -/
theorem finish_ne_alone {n : ℕ} {a : Attempt} {res : Res SentBody} {s : ℕ × SentBody}
    (hbefore : SentBefore n res) (hres : res.sent = some s) : finish n a res ≠ finish n a {} := by
  intro halone
  obtain ⟨statusCode, i, body⟩ := s
  have hi := hbefore statusCode i body hres
  have hsent := finish_sent_of_some (n := n) (a := a) hres
  rw [halone] at hsent
  have halone_sent : (finish n a {}).sent = none ∨
      ∃ statusCode body, (finish n a {}).sent = some (statusCode, n, body) :=
    finish_sent_of_none rfl
  rcases halone_sent with hnone | ⟨_, _, hsome⟩
  · rw [hnone] at hsent
    cases hsent
  · rw [hsome] at hsent
    cases hsent
    omega

/-- The status that was left is the one of a response that is sent before any other is set. -/
theorem statusCode_of_finish_alone {n : ℕ} {a : Attempt} {res : Res SentBody} {body : String}
    (hactions : a.actions ≠ []) (hsets : setsStatus a.actions = false)
    (hsent : (controller n a res).1.sent = some (res.statusCode, n, body))
    (halone : finish n a res = finish n a {}) : res.statusCode = 200 := by
  have hleft : (finish n a {}).sent = some (res.statusCode, n, body) := by
    rcases finish_sent n a res with hright | ⟨hnone, -⟩
    · rw [← halone, hright, hsent]
    · rw [hsent] at hnone
      cases hnone
  -- Alone, it would have sent the body with 200.
  have hown : a.actions = [] ∨ ∃ body, (controller n a {}).1.sent = some (200, n, body) :=
    controller_sent_of_not_setsStatus rfl hsets
  obtain ⟨body', hsent'⟩ := hown.resolve_left hactions
  rcases finish_sent n a {} with hright | ⟨hnone, -⟩
  · rw [hright, hsent', Option.some.injEq, Prod.mk.injEq] at hleft
    exact hleft.1.symm
  · rw [hsent'] at hnone
    cases hnone

/-- With an earlier attempt behind it, an attempt decides alone exactly when it is sound. -/
theorem truthful_finish_alone_iff {n : ℕ} {a : Attempt} {res : Res SentBody}
    (hbefore : SentBefore n res) :
    (Truthful (finish n a res) ∧ finish n a res = finish n a {}) ↔ Sound n a res := by
  rw [truthful_finish_iff]
  cases hres : res.sent with
  | some s =>
    refine iff_of_false (fun h => finish_ne_alone hbefore hres h.2) ?_
    rintro ⟨hunsent, -, -⟩
    rw [hres] at hunsent
    cases hunsent
  | none =>
    by_cases hsets : setsStatus a.actions = true
    · have halone := finish_congr (controller_of_setsStatus (n := n) hres hsets)
      exact ⟨fun h => ⟨hres, h.1, fun _ => .inr hsets⟩, fun h => ⟨h.ends, halone⟩⟩
    · rw [Bool.not_eq_true] at hsets
      by_cases hactions : a.actions = []
      · have hcontroller := controller_of_nil (n := n) hactions res
        constructor
        · rintro ⟨hends, -⟩
          refine ⟨hres, hends, fun hsent => absurd hres ?_⟩
          rwa [hcontroller] at hsent
        · rintro ⟨-, hends, -⟩
          refine ⟨hends, finish_of_nil hactions hres ?_⟩
          rwa [hcontroller] at hends
      · have hsends := controller_sent_of_not_setsStatus (n := n) hres hsets
        obtain ⟨body, hsent⟩ := hsends.resolve_left hactions
        constructor
        · rintro ⟨hends, halone⟩
          exact ⟨hres, hends, fun _ => .inl
            (statusCode_of_finish_alone hactions hsets hsent halone)⟩
        · rintro ⟨-, hends, hown⟩
          have hstatus : res.statusCode = 200 := by
            refine (hown (by rw [hsent]; nofun)).resolve_right ?_
            rw [hsets]
            exact Bool.false_ne_true
          refine ⟨hends, ?_⟩
          obtain ⟨statusCode, sent⟩ := res
          dsimp only at hres hstatus
          rw [hres, hstatus]

/-- A request is answered truthfully, and as its last attempt alone decides, exactly when the last
attempt is sound on the response as the earlier attempts have left it. -/
theorem wrapWriteHandler_truthful_iff (first : Attempt) (rest : List Attempt) :
    (Truthful (wrapWriteHandler false .started first rest {}) ∧
        wrapWriteHandler false .started first rest {} =
          finish (lastAttempt 0 first rest {}).n (lastAttempt 0 first rest {}).attempt {}) ↔
      Sound (lastAttempt 0 first rest {}).n (lastAttempt 0 first rest {}).attempt
        (lastAttempt 0 first rest {}).res := by
  have hbefore : SentBefore 0 {} := nofun
  have hfinish : wrapWriteHandler false .started first rest {} =
      finish (lastAttempt 0 first rest {}).n (lastAttempt 0 first rest {}).attempt
        (lastAttempt 0 first rest {}).res := by
    unfold wrapWriteHandler executeWrite finish
    dsimp only
    rw [if_neg (by decide), ← withTransaction_last]
  rw [hfinish]
  exact truthful_finish_alone_iff (hbefore.lastAttempt 0 first rest)

/-- A controller that sends its response itself, as `closeCase` does, in a transaction whose commit
fails: the client is told of a success, and `next` is called. A controller that sets 404 and returns
a value: the transaction is rolled back, and the value is sent with 200. And a controller whose first
attempt has set 404 before a transient error: the second one, which sets no status, is rolled
back. -/
theorem wrapWriteHandler_fails :
    (wrapWriteHandler false .started
        { actions := [.json "closed"], outcome := .returned none,
          commit := .failed { message := "commit" } } [] {} =
      ⟨some (200, 0, "closed"), some { message := "commit" }, false⟩) ∧
    (wrapWriteHandler false .started
        { actions := [.status ⟨404, by decide⟩],
          outcome := .returned (some { payload := "not found" }) } [] {} =
      ⟨some (200, 0, "not found"), none, false⟩) ∧
    (wrapWriteHandler false .started
        { actions := [.status ⟨404, by decide⟩],
          outcome := .threw { message := "busy", transient := true } }
        [{ actions := [], outcome := .returned (some { payload := "done" }) }] {} =
      ⟨some (200, 1, "done"), none, false⟩) ∧
    ¬Truthful ⟨some (200, 0, "closed"), some { message := "commit" }, false⟩ ∧
    ¬Truthful ⟨some (200, 0, "not found"), none, false⟩ ∧
    ¬Truthful ⟨some (200, 1, "done"), none, false⟩ := by
  refine ⟨by decide, by decide, by decide, not_truthful_both, ?_, ?_⟩
  · rw [truthful_sent]
    decide
  · rw [truthful_sent]
    decide

end Docketra.WriteHandler
