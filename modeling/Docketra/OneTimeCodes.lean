import Docketra.Lib.Interleaving
import Mathlib.Data.Nat.Basic
import Mathlib.Order.Basic

/-!
# One-time codes

`services/otp.service.js` issues codes, and verifies them against the newest one that is not used.
A verification counts its attempt, and marks the code as used, by writing what follows from the copy
that it has read. So the bounds hold in the runs in which each comparison is with the code as it is
stored, and a code is accepted only when it was issued last (`guessing_bounded`).

The requests are those of one identifier and purpose. A step reads or writes once, and every call of
the database succeeds. Of codes that were created at one time, the one inserted last sorts first.
-/

namespace Docketra.OneTimeCodes

open Interleaving Runs

def OTP_EXPIRY_MINUTES : ℕ := 5

def OTP_MAX_ATTEMPTS : ℕ := 5

def OTP_RATE_LIMIT_SECONDS : ℕ := 60

/-- A code, as it is stored. Times are in milliseconds. -/
structure Otp where
  code : String
  expires_at : ℕ
  attempts : ℕ
  is_used : Bool
  created_at : ℕ
  deriving DecidableEq, Repr

/-- A given code was compared with an issued one, when so many had been issued. -/
structure Comparison where
  otp : ℕ
  isEqual : Bool
  issued : ℕ
  deriving DecidableEq, Repr

/-- The issued codes, by the order of their creation, with a record of the comparisons, and of the
codes that verification tokens were signed for. -/
structure Store where
  now : ℕ
  issued : ℕ
  otp : ℕ → Otp
  comparisons : List Comparison
  tokens : List ℕ

/-- What a request comes to. -/
inductive Outcome where
  | sent (expiresAt : ℕ)
  | verified
  | error (message : String)
  deriving DecidableEq, Repr

/-- The await that a request has come to. -/
inductive Phase where
  | received
  | sending (latestOtp : Option Otp)
  | emailing (expiresAt : ℕ)
  | verifying (place : ℕ) (otp : Otp)
  | rejecting
  | signing (place : ℕ)
  | done (outcome : Outcome)

/-- The steps of `sendOtp`, and those of `verifyOtp`. -/
inductive Action where
  | findLatest
  | create (generated : String)
  | sendLoginOtpEmail (failure : Option String)
  | findUnused
  | check (code : String)
  | reject
  | sign

inductive Other where
  | wait (milliseconds : ℕ)

/-- The newest code of the first so many. -/
def latestOtp (otp : ℕ → Otp) : ℕ → Option Otp
  | 0 => none
  | n + 1 => some (otp n)

/-- The place of the newest code that is not used. -/
def latestUnused (otp : ℕ → Otp) : ℕ → Option ℕ
  | 0 => none
  | n + 1 => if (otp n).is_used then latestUnused otp n else some n

/-- The code that `Otp.create` inserts. -/
def newOtp (generated : String) (now : ℕ) : Otp where
  code := generated
  expires_at := now + OTP_EXPIRY_MINUTES * 60 * 1000
  attempts := 0
  is_used := false
  created_at := now

def isRateLimited (now : ℕ) (latestOtp : Option Otp) : Bool :=
  latestOtp.any fun otp => now < otp.created_at + OTP_RATE_LIMIT_SECONDS * 1000

/-- The code that was read is neither expired nor out of attempts, so that it is compared. -/
def isCompared (now : ℕ) (otp : Otp) : Bool :=
  now ≤ otp.expires_at && otp.attempts < OTP_MAX_ATTEMPTS

/-- A comparison is added to the record. -/
def Store.compare (s : Store) (place : ℕ) (isEqual : Bool) : Store :=
  { s with comparisons := ⟨place, isEqual, s.issued⟩ :: s.comparisons }

/-- `save`, which writes the modified path of the code only. -/
def Store.save (s : Store) (place : ℕ) (modify : Otp → Otp) : Store :=
  { s with otp := Function.update s.otp place (modify (s.otp place)) }

/-- `otp.attempts += 1` and `save`. The number that is written is that of the copy that was read. -/
def Store.countAttempt (s : Store) (place : ℕ) (otp : Otp) : Store :=
  (s.compare place false).save place fun stored => { stored with attempts := otp.attempts + 1 }

/-- `otp.is_used = true` and `save`. -/
def Store.accept (s : Store) (place : ℕ) : Store :=
  (s.compare place true).save place fun stored => { stored with is_used := true }

/-- The steps of a request. -/
def act (hasSecret : Bool) (_ : ℕ) : Action → Store → Phase → Option (Store × Phase)
  | .findLatest, s, .received => some (s, .sending (latestOtp s.otp s.issued))
  | .create generated, s, .sending latestOtp =>
    if isRateLimited s.now latestOtp then some (s, .done (.error "OTP_RATE_LIMITED"))
    else
      let otp := newOtp generated s.now
      some ({ s with issued := s.issued + 1, otp := Function.update s.otp s.issued otp },
        .emailing otp.expires_at)
  | .sendLoginOtpEmail failure, s, .emailing expiresAt =>
    some (s, .done (failure.elim (.sent expiresAt) .error))
  | .findUnused, s, .received =>
    match latestUnused s.otp s.issued with
    | none => some (s, .done (.error "OTP_NOT_FOUND"))
    | some place => some (s, .verifying place (s.otp place))
  | .check code, s, .verifying place otp =>
    if otp.expires_at < s.now then some (s, .done (.error "OTP_EXPIRED"))
    else if OTP_MAX_ATTEMPTS ≤ otp.attempts then
      some (s, .done (.error "OTP_ATTEMPTS_EXCEEDED"))
    else if otp.code ≠ code then some (s.countAttempt place otp, .rejecting)
    else some (s.accept place, .signing place)
  | .reject, s, .rejecting => some (s, .done (.error "OTP_INVALID"))
  | .sign, s, .signing place =>
    if hasSecret then some ({ s with tokens := place :: s.tokens }, .done .verified)
    else some (s, .done (.error "JWT_SECRET_MISSING"))
  | _, _, _ => none

def other : Other → Store → Store
  | .wait milliseconds, s => { s with now := s.now + milliseconds }

def program (hasSecret : Bool) : Program Store Phase Action Other where
  act := act hasSecret
  other := other

/-- Before any request. -/
def initial : System Store Phase where
  stored := ⟨0, 0, fun _ => newOtp "" 0, [], []⟩
  phase _ := .received

/-! ## What is asked -/

/-- How many wrong codes were compared with an issued one. -/
def Store.wrongs (s : Store) (place : ℕ) : ℕ :=
  s.comparisons.countP fun c => c.otp = place && !c.isEqual

/-- A code yields one token, is compared with so many wrong codes, and is accepted only as the one
that was issued last. -/
structure GuessingBounded (s : Store) : Prop where
  oneToken : ∀ place, s.tokens.count place ≤ 1
  attempts : ∀ place, s.wrongs place ≤ OTP_MAX_ATTEMPTS
  newestOnly : ∀ c ∈ s.comparisons, c.isEqual = true → c.issued = c.otp + 1

/-- A wrong code is compared when the attempts are stored as they were read, and the right one when
the code is not used and was issued last. -/
def Undisturbed : Event Action Other → System Store Phase → Prop
  | .act r (.check code), s =>
    ∀ place otp, s.phase r = .verifying place otp → isCompared s.stored.now otp = true →
      (otp.code ≠ code → (s.stored.otp place).attempts = otp.attempts) ∧
      (otp.code = code → (s.stored.otp place).is_used = false ∧ s.stored.issued = place + 1)
  | _, _ => True

/-! ## The invariant -/

/-- The attempts that are stored are the wrong codes that were compared. Each token is of a code that
is used, and each request that is about to sign one is alone with its code. -/
structure StoreInv (s : Store) : Prop where
  wrongs : ∀ place, s.wrongs place = (s.otp place).attempts
  attempts : ∀ place, (s.otp place).attempts ≤ OTP_MAX_ATTEMPTS
  unissued : ∀ place, s.issued ≤ place → s.wrongs place = 0 ∧ (s.otp place).is_used = false
  tokens : ∀ place, s.tokens.count place ≤ 1
  used : ∀ place, 0 < s.tokens.count place → (s.otp place).is_used = true
  newestOnly : ∀ c ∈ s.comparisons, c.isEqual = true → c.issued = c.otp + 1

def Signing (place : ℕ) : Phase → Prop
  | .signing place' => place' = place
  | _ => False

/-- What is known of a request: the code that it verifies is issued, and the one that it signs a
token for is used, and has none. -/
def PhaseInv (s : Store) : Phase → Prop
  | .verifying place _ => place < s.issued
  | .signing place => (s.otp place).is_used = true ∧ s.tokens.count place = 0
  | _ => True

def assertions : Assertions Store Phase where
  store := StoreInv
  own _ := PhaseInv
  both p q := ∀ place, ¬(Signing place p ∧ Signing place q)

/-! ## What a step does -/

/-- A step changes nothing that is stored, inserts a code, compares one, or signs a token. -/
inductive Effect (s : Store) (p : Phase) : Action → Store → Phase → Prop where
  | moves {action : Action} {q : Phase} (hsigning : ∀ place, ¬ Signing place q)
    (hplace : ∀ place otp, q = .verifying place otp → place < s.issued) : Effect s p action s q
  | inserts {generated : String} {expiresAt : ℕ} :
    Effect s p (.create generated)
      { s with
        issued := s.issued + 1
        otp := Function.update s.otp s.issued (newOtp generated s.now) }
      (.emailing expiresAt)
  | countsAttempt {code : String} {place : ℕ} {otp : Otp} (hp : p = .verifying place otp)
    (hcompared : isCompared s.now otp = true) (hcode : otp.code ≠ code) :
    Effect s p (.check code) (s.countAttempt place otp) .rejecting
  | accepts {code : String} {place : ℕ} {otp : Otp} (hp : p = .verifying place otp)
    (hcompared : isCompared s.now otp = true) (hcode : otp.code = code) :
    Effect s p (.check code) (s.accept place) (.signing place)
  | signs {place : ℕ} {outcome : Outcome} (hp : p = .signing place) :
    Effect s p .sign { s with tokens := place :: s.tokens } (.done outcome)

theorem latestUnused_lt {otp : ℕ → Otp} {n place : ℕ} (h : latestUnused otp n = some place) :
    place < n := by
  induction n with
  | zero => cases h
  | succ n ih =>
    unfold latestUnused at h
    split_ifs at h
    · exact Nat.lt_succ_of_lt (ih h)
    · rw [← Option.some.inj h]
      exact Nat.lt_succ_self n

/-- What the steps of a request do. -/
theorem act_effect {hasSecret : Bool} (request : ℕ) {action : Action} {s s' : Store} {p p' : Phase}
    (h : act hasSecret request action s p = some (s', p')) : Effect s p action s' p' := by
  unfold act at h
  split at h
  · cases h
    exact .moves (fun _ h => h) nofun
  · split_ifs at h <;> cases h
    · exact .moves (fun _ h => h) nofun
    · exact .inserts
  · cases h
    exact .moves (fun _ h => h) nofun
  · split at h <;> cases h
    · exact .moves (fun _ h => h) nofun
    · rename_i place hplace
      refine .moves (fun _ h => h) fun place' otp heq => ?_
      cases heq
      exact latestUnused_lt hplace
  · split_ifs at h with hexpired hexceeded hcode <;> cases h
    · exact .moves (fun _ h => h) nofun
    · exact .moves (fun _ h => h) nofun
    · refine .countsAttempt rfl ?_ hcode
      simp only [isCompared, Bool.and_eq_true, decide_eq_true_eq]
      omega
    · refine .accepts rfl ?_ (not_not.mp hcode)
      simp only [isCompared, Bool.and_eq_true, decide_eq_true_eq]
      omega
  · cases h
    exact .moves (fun _ h => h) nofun
  · split_ifs at h <;> cases h
    · exact .signs rfl
    · exact .moves (fun _ h => h) nofun
  · cases h

/-! ## What a step does to the store -/

theorem wrongs_compare (s : Store) (place place' : ℕ) (isEqual : Bool) :
    (s.compare place isEqual).wrongs place' =
      s.wrongs place' + if place = place' ∧ isEqual = false then 1 else 0 := by
  unfold Store.wrongs Store.compare
  rw [List.countP_cons]
  simp

theorem otp_save_self (s : Store) (place : ℕ) (modify : Otp → Otp) :
    (s.save place modify).otp place = modify (s.otp place) := Function.update_self _ _ _

theorem otp_save_of_ne (s : Store) {place place' : ℕ} (h : place' ≠ place) (modify : Otp → Otp) :
    (s.save place modify).otp place' = s.otp place' := Function.update_of_ne h _ _

theorem isCompared_iff {now : ℕ} {otp : Otp} :
    isCompared now otp = true ↔ now ≤ otp.expires_at ∧ otp.attempts < OTP_MAX_ATTEMPTS := by
  simp only [isCompared, Bool.and_eq_true, decide_eq_true_eq]

/-- A code that has tokens is issued. -/
theorem StoreInv.lt_of_used {s : Store} (h : StoreInv s) {place : ℕ}
    (hused : (s.otp place).is_used = true) : place < s.issued := by
  by_contra hle
  rw [(h.unissued place (not_lt.mp hle)).2] at hused
  cases hused

theorem StoreInv.inserts {s : Store} (h : StoreInv s) (generated : String) :
    StoreInv { s with
      issued := s.issued + 1
      otp := Function.update s.otp s.issued (newOtp generated s.now) } := by
  obtain ⟨hwrongs, hunused⟩ := h.unissued s.issued le_rfl
  have hself : Function.update s.otp s.issued (newOtp generated s.now) s.issued =
      newOtp generated s.now := Function.update_self _ _ _
  have hother : ∀ {place}, place ≠ s.issued →
      Function.update s.otp s.issued (newOtp generated s.now) place = s.otp place :=
    fun hne => Function.update_of_ne hne _ _
  constructor
  · intro place
    by_cases hp : place = s.issued
    · rw [hp]
      exact hwrongs.trans (congrArg Otp.attempts hself).symm
    · exact (h.wrongs place).trans (congrArg Otp.attempts (hother hp)).symm
  · intro place
    by_cases hp : place = s.issued
    · rw [hp]
      exact (congrArg Otp.attempts hself).trans_le (Nat.zero_le _)
    · exact (congrArg Otp.attempts (hother hp)).trans_le (h.attempts place)
  · intro place hplace
    have hlt : s.issued < place := hplace
    obtain ⟨hzero, hfalse⟩ := h.unissued place hlt.le
    exact ⟨hzero, (congrArg Otp.is_used (hother hlt.ne')).trans hfalse⟩
  · exact h.tokens
  · intro place hcount
    have hused := h.used place hcount
    have hne := (h.lt_of_used hused).ne
    exact (congrArg Otp.is_used (hother hne)).trans hused
  · exact h.newestOnly

theorem wrongs_countAttempt (s : Store) (place place' : ℕ) (otp : Otp) :
    (s.countAttempt place otp).wrongs place' =
      s.wrongs place' + if place = place' then 1 else 0 := by
  refine (wrongs_compare s place place' false).trans ?_
  simp only [and_true]

theorem otp_countAttempt_self (s : Store) (place : ℕ) (otp : Otp) :
    (s.countAttempt place otp).otp place =
      { s.otp place with attempts := otp.attempts + 1 } :=
  otp_save_self (s.compare place false) place _

theorem otp_countAttempt_of_ne (s : Store) {place place' : ℕ} (h : place' ≠ place) (otp : Otp) :
    (s.countAttempt place otp).otp place' = s.otp place' :=
  otp_save_of_ne (s.compare place false) h _

theorem is_used_countAttempt (s : Store) (place place' : ℕ) (otp : Otp) :
    ((s.countAttempt place otp).otp place').is_used = (s.otp place').is_used := by
  by_cases hp : place' = place
  · rw [hp, otp_countAttempt_self]
  · rw [otp_countAttempt_of_ne s hp]

theorem wrongs_accept (s : Store) (place place' : ℕ) :
    (s.accept place).wrongs place' = s.wrongs place' := by
  refine (wrongs_compare s place place' true).trans ?_
  rw [if_neg (fun hc => Bool.false_ne_true hc.2.symm), Nat.add_zero]

theorem otp_accept_self (s : Store) (place : ℕ) :
    (s.accept place).otp place = { s.otp place with is_used := true } :=
  otp_save_self (s.compare place true) place _

theorem otp_accept_of_ne (s : Store) {place place' : ℕ} (h : place' ≠ place) :
    (s.accept place).otp place' = s.otp place' :=
  otp_save_of_ne (s.compare place true) h _

theorem is_used_accept {s : Store} {place place' : ℕ} (h : (s.otp place').is_used = true) :
    ((s.accept place).otp place').is_used = true := by
  by_cases hp : place' = place
  · rw [hp, otp_accept_self]
  · rw [otp_accept_of_ne s hp]
    exact h

theorem attempts_accept (s : Store) (place place' : ℕ) :
    ((s.accept place).otp place').attempts = (s.otp place').attempts := by
  by_cases hp : place' = place
  · rw [hp, otp_accept_self]
  · rw [otp_accept_of_ne s hp]

theorem StoreInv.countAttempt {s : Store} (h : StoreInv s) {place : ℕ} {otp : Otp}
    (hplace : place < s.issued) (hcompared : otp.attempts < OTP_MAX_ATTEMPTS)
    (hread : (s.otp place).attempts = otp.attempts) : StoreInv (s.countAttempt place otp) := by
  constructor
  · intro place'
    rw [wrongs_countAttempt, h.wrongs]
    by_cases hp : place' = place
    · rw [hp, otp_countAttempt_self, if_pos rfl, hread]
    · rw [otp_countAttempt_of_ne s hp, if_neg (Ne.symm hp)]
      rfl
  · intro place'
    by_cases hp : place' = place
    · rw [hp, otp_countAttempt_self]
      exact hcompared
    · rw [otp_countAttempt_of_ne s hp]
      exact h.attempts place'
  · intro place' hplace'
    have hle : s.issued ≤ place' := hplace'
    obtain ⟨hzero, hfalse⟩ := h.unissued place' hle
    rw [wrongs_countAttempt, is_used_countAttempt, hzero, if_neg (by omega)]
    exact ⟨rfl, hfalse⟩
  · exact h.tokens
  · intro place' hcount
    rw [is_used_countAttempt]
    exact h.used place' hcount
  · intro c hc
    rcases List.mem_cons.mp hc with rfl | hc
    · exact nofun
    · exact h.newestOnly c hc

theorem StoreInv.accept {s : Store} (h : StoreInv s) {place : ℕ} (hnewest : s.issued = place + 1) :
    StoreInv (s.accept place) := by
  constructor
  · intro place'
    rw [wrongs_accept, attempts_accept]
    exact h.wrongs place'
  · intro place'
    rw [attempts_accept]
    exact h.attempts place'
  · intro place' hplace'
    have hle : s.issued ≤ place' := hplace'
    rw [wrongs_accept, otp_accept_of_ne s (by omega)]
    exact h.unissued place' hle
  · exact h.tokens
  · exact fun place' hcount => is_used_accept (h.used place' hcount)
  · intro c hc
    rcases List.mem_cons.mp hc with rfl | hc
    · exact fun _ => hnewest
    · exact h.newestOnly c hc

theorem StoreInv.signs {s : Store} (h : StoreInv s) {place : ℕ}
    (hused : (s.otp place).is_used = true) (hnone : s.tokens.count place = 0) :
    StoreInv { s with tokens := place :: s.tokens } := by
  refine ⟨h.wrongs, h.attempts, h.unissued, fun place' => ?_, fun place' hcount => ?_,
    h.newestOnly⟩
  · show (place :: s.tokens).count place' ≤ 1
    rw [List.count_cons]
    split_ifs with hp
    · rw [← beq_iff_eq.mp hp, hnone]
    · exact h.tokens place'
  · by_cases hp : place' = place
    · rw [hp]
      exact hused
    · refine h.used place' ?_
      have hsame : (place :: s.tokens).count place' = s.tokens.count place' :=
        List.count_cons_of_ne (Ne.symm hp)
      rw [← hsame]
      exact hcount

/-! ## Runs -/

/-- What is known of a request stays true while codes are issued, and used codes stay used and get no
tokens. -/
theorem PhaseInv.imp {s s' : Store} {p : Phase} (h : PhaseInv s p) (hissued : s.issued ≤ s'.issued)
    (hsigning : ∀ place, Signing place p → (s.otp place).is_used = true →
      s.tokens.count place = 0 → (s'.otp place).is_used = true ∧ s'.tokens.count place = 0) :
    PhaseInv s' p := by
  cases p with
  | verifying place otp => exact lt_of_lt_of_le h hissued
  | signing place => exact hsigning place rfl h.1 h.2
  | _ => trivial

/-- As a code that is accepted is not used, it has no token, and no other request is about to sign
one. -/
theorem keeps_accept {s : System Store Phase} (h : Holds assertions s) {request place : ℕ}
    (hunused : (s.stored.otp place).is_used = false) (hnewest : s.stored.issued = place + 1) :
    Keeps assertions s request (s.stored.accept place, .signing place) := by
  have hnone : s.stored.tokens.count place = 0 := by
    by_contra hne
    rw [h.store.used place (Nat.pos_of_ne_zero hne)] at hunused
    cases hunused
  have hothers : ∀ r place', Signing place' (s.phase r) → place' ≠ place := by
    rintro r place' hr rfl
    have hown := h.own r
    cases hphase : s.phase r <;> rw [hphase] at hr hown <;> cases hr
    rw [hown.1] at hunused
    cases hunused
  have hused : ((s.stored.accept place).otp place).is_used = true := by
    rw [otp_accept_self]
  refine ⟨h.store.accept hnewest, ⟨hused, hnone⟩, fun r _ => ?_,
    fun r _ => ⟨fun place' hb => ?_, fun place' hb => ?_⟩⟩
  · exact (h.own r).imp le_rfl fun _ _ hused hnone => ⟨is_used_accept hused, hnone⟩
  · exact hothers r place' hb.2 hb.1.symm
  · exact hothers r place' hb.1 hb.2.symm

/-- A step keeps the invariant, when what it compares is undisturbed. -/
theorem holds_step {hasSecret : Bool} (event : Event Action Other) (s : System Store Phase)
    (h : Holds assertions s) (hok : Undisturbed event s) :
    Holds assertions (step (program hasSecret) event s) := by
  cases event with
  | other event =>
    cases event with
    | wait milliseconds =>
      have hstore := h.store
      exact h.other ⟨hstore.wrongs, hstore.attempts, hstore.unissued, hstore.tokens, hstore.used,
        hstore.newestOnly⟩ fun r => (h.own r).imp le_rfl fun _ _ hused hnone => ⟨hused, hnone⟩
  | act request action =>
    refine h.act fun result hresult => ?_
    obtain ⟨s', p'⟩ := result
    have hsigning : ∀ {q : Phase}, (∀ place, ¬ Signing place q) → ∀ r, r ≠ request →
        assertions.both q (s.phase r) ∧ assertions.both (s.phase r) q :=
      fun hq r _ => ⟨fun place hb => hq place hb.1, fun place hb => hq place hb.2⟩
    have hphase := h.own request
    cases act_effect request hresult with
    | moves hq hplace =>
      refine ⟨h.store, ?_, fun r _ => h.own r, hsigning hq⟩
      cases p' with
      | verifying place otp => exact hplace place otp rfl
      | signing place => exact absurd rfl (hq place)
      | _ => trivial
    | inserts =>
      refine ⟨h.store.inserts _, trivial, fun r _ => ?_, hsigning fun _ => id⟩
      refine (h.own r).imp (Nat.le_succ _) fun place _ hused hnone => ⟨?_, hnone⟩
      have hne := (h.store.lt_of_used hused).ne
      exact (congrArg Otp.is_used (Function.update_of_ne hne _ _)).trans hused
    | countsAttempt hp hcompared hcode =>
      have hread := (hok _ _ hp hcompared).1 hcode
      rw [hp] at hphase
      have hlt := (isCompared_iff.mp hcompared).2
      refine ⟨h.store.countAttempt hphase hlt hread, trivial, fun r _ => ?_, hsigning fun _ => id⟩
      exact (h.own r).imp le_rfl fun place' _ hused hnone =>
        ⟨(is_used_countAttempt s.stored _ place' _).trans hused, hnone⟩
    | accepts hp hcompared hcode =>
      obtain ⟨hunused, hnewest⟩ := (hok _ _ hp hcompared).2 hcode
      exact keeps_accept h hunused hnewest
    | signs hp =>
      rename_i place outcome
      rw [hp] at hphase
      refine ⟨h.store.signs hphase.1 hphase.2, trivial, fun r hr => ?_, hsigning fun _ => id⟩
      refine (h.own r).imp le_rfl fun place' hplace' hused hnone => ⟨hused, ?_⟩
      have hne : place ≠ place' := by
        rintro rfl
        exact h.both request r (Ne.symm hr) place ⟨hp ▸ rfl, hplace'⟩
      exact (List.count_cons_of_ne hne).trans hnone

theorem holds_initial : Holds assertions initial := by
  refine ⟨⟨fun _ => rfl, fun _ => Nat.zero_le _, fun _ _ => ⟨rfl, rfl⟩, fun _ => Nat.zero_le _,
    fun _ hcount => absurd hcount (lt_irrefl 0), nofun⟩, fun _ => trivial, fun _ _ _ _ hb => hb.1⟩

/-- A request that sends a code. -/
def sends (request : ℕ) (generated : String) : List (Event Action Other) :=
  [.findLatest, .create generated, .sendLoginOtpEmail none].map (Event.act request)

/-- A request that verifies a code. -/
def verifies (request : ℕ) (code : String) : List (Event Action Other) :=
  [.findUnused, .check code, .sign].map (Event.act request)

/-- A code that has been read by one request, while no other has a step. -/
theorem undisturbed_of_read (place : ℕ) (otp : Otp) {s : System Store Phase} {r : ℕ}
    {code : String} (hphase : s.phase r = .verifying place otp)
    (hread : (s.stored.otp place).attempts = otp.attempts)
    (hequal : otp.code = code →
      (s.stored.otp place).is_used = false ∧ s.stored.issued = place + 1) :
    Undisturbed (.act r (.check code)) s := by
  intro place' otp' hphase' _
  rw [hphase] at hphase'
  cases hphase'
  exact ⟨fun _ => hread, hequal⟩

end Docketra.OneTimeCodes
