import Docketra.Lib.Interleaving
import Mathlib.Algebra.Group.Nat.Defs
import Mathlib.Data.Nat.Basic
import Mathlib.Order.Basic

/-!
# The outbox

`workers/outbox.worker.js` claims the entries of the outbox one after the other, sends each, and
marks it as processed or its attempt as failed (`services/outbox.service.js`). Any number of workers
do so, and a worker may stop at any await. An entry is held by one worker at a time, is sent within
the bound, and not after it is settled. But the claim has no lease: an entry that its worker loses
stays in processing for ever. So all that is asked holds exactly in the runs in which no worker loses
an entry that it has claimed and not settled (`bounded_delivery_iff`).

The entries are numbered by their creation. A step is one call of the database or of the mail
transport, or what a worker does of its reply.
-/

namespace Docketra.Outbox

open Interleaving Runs

inductive EntryType where
  | EMAIL | NOTIFICATION
  deriving DecidableEq, Repr

inductive Status where
  | pending | processing | processed | failed
  deriving DecidableEq, Repr

/-- An entry of the outbox. Times are in milliseconds. -/
structure Entry where
  type : EntryType
  status : Status
  attempts : ℕ
  nextAttemptAt : ℕ
  processedAt : Option ℕ
  errorMessage : Option String
  deriving DecidableEq, Repr

/-- The environment of the service. -/
structure Config where
  MAX_ATTEMPTS : ℕ
  BASE_BACKOFF_MS : ℕ

/-- The entries, and a record of the places of those that `sendEmailNow` was called for. -/
structure Store where
  now : ℕ
  enqueued : ℕ
  entry : ℕ → Entry
  sends : List ℕ

/-- The await that a worker has come to, with the entry that it has claimed. -/
inductive Phase where
  | idle
  | claiming (place : ℕ) (entry : Entry)
  | sending (place : ℕ) (entry : Entry)
  | markingProcessed (place : ℕ) (entry : Entry)
  | markingFailed (place : ℕ) (entry : Entry) (message : String)
  | stopped

/-- The steps of a worker. A call that fails may have been applied. -/
inductive Action where
  | claimNextPending
  | claimError
  | processOutboxEntry
  | sent (failure : Option String)
  | markProcessed
  | markProcessedError (applied : Bool) (message : String)
  | markFailedAttempt
  | markFailedAttemptError (applied : Bool)
  | stop

inductive Other where
  | wait (milliseconds : ℕ)
  | enqueueOutbox (type : EntryType)

section service

variable (config : Config)

/-- The delay of `buildBackoffDate`. -/
def backoffDelay (attempts : ℕ) : ℕ :=
  min (config.BASE_BACKOFF_MS * 2 ^ (attempts - 1)) (15 * 60 * 1000)

def newEntry (type : EntryType) (now : ℕ) : Entry where
  type := type
  status := .pending
  attempts := 0
  nextAttemptAt := now
  processedAt := none
  errorMessage := none

/-- The filter of `claimNextPending`. -/
def isDue (now : ℕ) (e : Entry) : Bool := e.status == .pending && e.nextAttemptAt ≤ now

/-- The first entry that is due. -/
def nextDue (s : Store) : Option ℕ :=
  (List.range s.enqueued).find? fun place => isDue s.now (s.entry place)

def Entry.claim (e : Entry) : Entry := { e with status := .processing }

/-- The update of `markProcessed`. -/
def Entry.markProcessed (now : ℕ) (e : Entry) : Entry :=
  if e.status = .processing then
    { e with status := .processed, processedAt := some now, errorMessage := none }
  else e

/-- The update of `markFailedAttempt`, for the entry as it was claimed. -/
def Entry.markFailedAttempt (now : ℕ) (claimed : Entry) (message : String) (e : Entry) : Entry :=
  let attempts := claimed.attempts + 1
  let exceeded := config.MAX_ATTEMPTS ≤ attempts
  if e.status = .processing then
    { e with
      status := if exceeded then .failed else .pending
      errorMessage := some message
      processedAt := if exceeded then some now else none
      nextAttemptAt := now + backoffDelay config attempts
      attempts := e.attempts + 1 }
  else e

/-- An update of one entry. -/
def Store.updateOne (s : Store) (place : ℕ) (f : Entry → Entry) : Store :=
  { s with entry := Function.update s.entry place (f (s.entry place)) }

/-- The steps of `pollOutbox`. -/
def act (_ : ℕ) : Action → Store → Phase → Option (Store × Phase)
  | .claimNextPending, s, .idle =>
    match nextDue s with
    | none => some (s, .idle)
    | some place => some (s.updateOne place Entry.claim, .claiming place (s.entry place).claim)
  | .claimError, s, .claiming _ _ => some (s, .idle)
  | .processOutboxEntry, s, .claiming place entry =>
    match entry.type with
    | .EMAIL => some ({ s with sends := place :: s.sends }, .sending place entry)
    | .NOTIFICATION => some (s, .markingProcessed place entry)
  | .sent none, s, .sending place entry => some (s, .markingProcessed place entry)
  | .sent (some message), s, .sending place entry => some (s, .markingFailed place entry message)
  | .markProcessed, s, .markingProcessed place _ =>
    some (s.updateOne place (Entry.markProcessed s.now), .idle)
  | .markProcessedError applied message, s, .markingProcessed place entry =>
    some (if applied then s.updateOne place (Entry.markProcessed s.now) else s,
      .markingFailed place entry message)
  | .markFailedAttempt, s, .markingFailed place entry message =>
    some (s.updateOne place (Entry.markFailedAttempt config s.now entry message), .idle)
  | .markFailedAttemptError applied, s, .markingFailed place entry message =>
    some (if applied then s.updateOne place (Entry.markFailedAttempt config s.now entry message)
      else s, .idle)
  | .stop, _, .stopped => none
  | .stop, s, _ => some (s, .stopped)
  | _, _, _ => none

def other : Other → Store → Store
  | .wait milliseconds, s => { s with now := s.now + milliseconds }
  | .enqueueOutbox type, s =>
    { s with
      enqueued := s.enqueued + 1
      entry := Function.update s.entry s.enqueued (newEntry type s.now) }

def program : Program Store Phase Action Other where
  act := act config
  other := other

end service

/-- An empty outbox, and idle workers. -/
def initial : System Store Phase where
  stored := ⟨0, 0, fun _ => newEntry .EMAIL 0, []⟩
  phase _ := .idle

/-! ## What is asked -/

/-- The place of the entry that a worker holds. -/
def Phase.holds : Phase → Option ℕ
  | .claiming place _ | .sending place _ | .markingProcessed place _ | .markingFailed place _ _ =>
    some place
  | .idle | .stopped => none

/-- The place of the entry that a worker is sending. -/
def Phase.sends : Phase → Option ℕ
  | .sending place _ => some place
  | _ => none

def Status.isSettled : Status → Bool
  | .processed | .failed => true
  | .pending | .processing => false

/-- An entry that is not settled is pending, or held by a worker that has not stopped. -/
def NotStranded (s : System Store Phase) : Prop :=
  ∀ place, place < s.stored.enqueued → (s.stored.entry place).status.isSettled = false →
    (s.stored.entry place).status = .pending ∨ ∃ r, (s.phase r).holds = some place

structure BoundedDelivery (config : Config) (events : List (Event Action Other)) : Prop where
  /-- No entry is being sent by two workers. -/
  exclusive : ∀ s ∈ states (step (program config)) events initial, ∀ r r' place,
    (s.phase r).sends = some place → (s.phase r').sends = some place → r = r'
  bounded : ∀ s ∈ states (step (program config)) events initial, ∀ place,
    s.stored.sends.count place ≤ config.MAX_ATTEMPTS
  /-- An entry that is settled is not sent again. -/
  settled : ∀ before after, events = before ++ after → ∀ place,
    ((run (step (program config)) before initial).stored.entry place).status.isSettled = true →
    (run (step (program config)) events initial).stored.sends.count place =
      (run (step (program config)) before initial).stored.sends.count place
  notStranded : ∀ s ∈ states (step (program config)) events initial, NotStranded s

/-- The place of the entry that a step of a worker leaves as it is, while the worker goes on without
it. -/
def Phase.droppedBy : Action → Phase → Option ℕ
  | .claimError, .claiming place _ => some place
  | .markFailedAttemptError false, .markingFailed place _ _ => some place
  | .stop, p => p.holds
  | _, _ => none

/-- The place of the entry that a step of a worker begins to send. -/
def Phase.sentBy : Action → Phase → Option ℕ
  | .processOutboxEntry, .claiming place entry => if entry.type = .EMAIL then some place else none
  | _, _ => none

/-- No worker drops an entry that is processing, and no mail is sent when no attempt is allowed. -/
def KeepsEntry (config : Config) : Event Action Other → System Store Phase → Prop
  | .act r action, s =>
    (∀ place, (s.phase r).droppedBy action = some place →
      (s.stored.entry place).status ≠ .processing) ∧
    ∀ place, (s.phase r).sentBy action = some place → 0 < config.MAX_ATTEMPTS
  | .other _, _ => True

/-! ## The invariant -/

/-- How often an entry may have been sent: the first attempt is always made. -/
def Config.bound (config : Config) : ℕ := max config.MAX_ATTEMPTS 1

/-- An entry has been sent once for each attempt, once more while it is processing, and within the
bound in all. -/
def EntryInv (config : Config) (sends : ℕ) (e : Entry) : Prop :=
  match e.status with
  | .pending => sends ≤ e.attempts ∧ e.attempts < config.bound
  | .processing => sends ≤ e.attempts + 1 ∧ e.attempts < config.bound
  | .processed | .failed => sends ≤ config.bound

/-- A worker holds an entry that is processing, with the attempts that are stored. -/
structure Held (s : Store) (place : ℕ) (entry : Entry) : Prop where
  enqueued : place < s.enqueued
  processing : (s.entry place).status = .processing
  attempts : (s.entry place).attempts = entry.attempts

def PhaseInv (s : Store) : Phase → Prop
  | .claiming place entry => Held s place entry ∧ s.sends.count place ≤ entry.attempts
  | .sending place entry | .markingProcessed place entry => Held s place entry
  -- The mark as processed may have been applied, and failed all the same.
  | .markingFailed place entry _ =>
    Held s place entry ∨ place < s.enqueued ∧ (s.entry place).status = .processed
  | .idle | .stopped => True

structure StoreInv (config : Config) (s : Store) : Prop where
  entries : ∀ place, EntryInv config (s.sends.count place) (s.entry place)
  unused : ∀ place, s.enqueued ≤ place →
    s.sends.count place = 0 ∧ (s.entry place).status = .pending

/-- No two workers hold one entry. -/
def assertions (config : Config) : Assertions Store Phase where
  store := StoreInv config
  own _ := PhaseInv
  both p q := ∀ place, ¬(p.holds = some place ∧ q.holds = some place)

/-! ## Updates of an entry -/

theorem status_markProcessed (now : ℕ) (e : Entry) :
    (e.markProcessed now).status = if e.status = .processing then .processed else e.status := by
  unfold Entry.markProcessed
  split_ifs <;> rfl

theorem status_markFailedAttempt_ne (config : Config) (now : ℕ) (claimed : Entry) (message : String)
    (e : Entry) :
    (Entry.markFailedAttempt config now claimed message e).status ≠ .processing := by
  unfold Entry.markFailedAttempt
  dsimp only
  split_ifs with h
  · exact nofun
  · exact nofun
  · exact h

theorem EntryInv.le_bound {config : Config} {sends : ℕ} {e : Entry} (h : EntryInv config sends e) :
    sends ≤ config.bound := by
  unfold EntryInv at h
  split at h <;> omega

theorem EntryInv.markProcessed {config : Config} {sends : ℕ} {e : Entry}
    (h : EntryInv config sends e) (now : ℕ) : EntryInv config sends (e.markProcessed now) := by
  have hle := h.le_bound
  unfold Entry.markProcessed
  split_ifs
  · exact hle
  · exact h

theorem EntryInv.markFailedAttempt {config : Config} {sends : ℕ} {e claimed : Entry}
    (h : EntryInv config sends e) (hclaimed : e.status = .processing → e.attempts = claimed.attempts)
    (now : ℕ) (message : String) :
    EntryInv config sends (Entry.markFailedAttempt config now claimed message e) := by
  have hle := h.le_bound
  unfold Entry.markFailedAttempt
  dsimp only
  split_ifs with hprocessing hexceeded
  · exact hle
  · rw [EntryInv, hprocessing] at h
    have hattempts := hclaimed hprocessing
    show sends ≤ e.attempts + 1 ∧ e.attempts + 1 < config.bound
    unfold Config.bound
    omega
  · exact h

theorem nextDue_spec {s : Store} {place : ℕ} (h : nextDue s = some place) :
    place < s.enqueued ∧ (s.entry place).status = .pending := by
  have hmem := List.mem_range.mp (List.mem_of_find?_eq_some h)
  have hdue := List.find?_some h
  simp only [isDue, Bool.and_eq_true, beq_iff_eq] at hdue
  exact ⟨hmem, hdue.1⟩

/-! ## What a step does -/

/-- A step drops the entry, passes it on to the next await, claims one, begins to send it, or updates
it so that it is not processing any more. -/
inductive Effect (config : Config) (s : Store) (p : Phase) : Action → Store → Phase → Prop where
  | rests {action : Action} {q : Phase} (hq : q.holds = none)
    (hdropped : p.droppedBy action = p.holds) (hsent : p.sentBy action = none) :
    Effect config s p action s q
  | moves {action : Action} {q : Phase} (hdropped : p.droppedBy action = none)
    (hsent : p.sentBy action = none) (hholds : q.holds = p.holds)
    (hq : ∀ place entry, q ≠ .claiming place entry)
    (hphase : PhaseInv s p → PhaseInv s q) : Effect config s p action s q
  | claims {place : ℕ} (hdue : nextDue s = some place) (hp : p = .idle) :
    Effect config s p .claimNextPending (s.updateOne place Entry.claim)
      (.claiming place (s.entry place).claim)
  | sends {place : ℕ} {entry : Entry} (hp : p = .claiming place entry)
    (htype : entry.type = .EMAIL) :
    Effect config s p .processOutboxEntry { s with sends := place :: s.sends } (.sending place entry)
  | updates {action : Action} {place : ℕ} {f : Entry → Entry} {q : Phase}
    (hdropped : p.droppedBy action = none) (hsent : p.sentBy action = none)
    (hp : p.holds = some place) (hholds : q.holds = none ∨ q.holds = some place)
    (hq : ∀ place entry, q ≠ .claiming place entry)
    (hf : ∀ e, (f e).status ≠ .processing) (hsame : ∀ e, e.status ≠ .processing → f e = e)
    (hentry : PhaseInv s p → ∀ sends, EntryInv config sends (s.entry place) →
      EntryInv config sends (f (s.entry place)))
    (hphase : PhaseInv s p → PhaseInv (s.updateOne place f) q) :
    Effect config s p action (s.updateOne place f) q

theorem entry_updateOne_self (s : Store) (place : ℕ) (f : Entry → Entry) :
    (s.updateOne place f).entry place = f (s.entry place) := Function.update_self _ _ _

theorem entry_updateOne_of_ne (s : Store) {place place' : ℕ} (h : place' ≠ place)
    (f : Entry → Entry) : (s.updateOne place f).entry place' = s.entry place' :=
  Function.update_of_ne h _ _

/-- The two updates that settle an attempt. -/
theorem effect_markProcessed (config : Config) {s : Store} {p q : Phase} {action : Action}
    {place : ℕ} {entry : Entry} (hp : p = .markingProcessed place entry)
    (hdropped : p.droppedBy action = none) (hsent : p.sentBy action = none)
    (hq : q = .idle ∨ ∃ message, q = .markingFailed place entry message) :
    Effect config s p action (s.updateOne place (Entry.markProcessed s.now)) q := by
  have hself := entry_updateOne_self s place (Entry.markProcessed s.now)
  refine .updates hdropped hsent (by rw [hp]; rfl) ?_ ?_ (fun e => ?_) (fun _ h => if_neg h)
    (fun _ _ h => h.markProcessed s.now) (fun hphase => ?_)
  · rcases hq with rfl | ⟨message, rfl⟩
    · exact .inl rfl
    · exact .inr rfl
  · rcases hq with rfl | ⟨message, rfl⟩
    · exact nofun
    · exact nofun
  · rw [status_markProcessed]
    split_ifs with h
    · exact nofun
    · exact h
  · rw [hp] at hphase
    rcases hq with rfl | ⟨message, rfl⟩
    · trivial
    · refine .inr ⟨hphase.enqueued, ?_⟩
      rw [hself, status_markProcessed, if_pos hphase.processing]

theorem effect_markFailedAttempt (config : Config) {s : Store} {p : Phase} {action : Action}
    {place : ℕ} {entry : Entry} {message : String} (hp : p = .markingFailed place entry message)
    (hdropped : p.droppedBy action = none) (hsent : p.sentBy action = none) :
    Effect config s p action
      (s.updateOne place (Entry.markFailedAttempt config s.now entry message)) .idle := by
  refine .updates hdropped hsent (by rw [hp]; rfl) (.inl rfl) nofun
    (status_markFailedAttempt_ne config s.now entry message) (fun _ h => if_neg h)
    (fun hphase sends h => ?_) fun _ => trivial
  refine h.markFailedAttempt (fun hprocessing => ?_) s.now message
  rw [hp] at hphase
  rcases hphase with hheld | ⟨-, hprocessed⟩
  · exact hheld.attempts
  · rw [hprocessed] at hprocessing
    cases hprocessing

/-- What the steps of a worker do. -/
theorem act_effect {config : Config} (worker : ℕ) {action : Action} {s s' : Store} {p p' : Phase}
    (h : act config worker action s p = some (s', p')) : Effect config s p action s' p' := by
  unfold act at h
  split at h
  · split at h <;> cases h
    · exact .rests rfl rfl rfl
    · rename_i place hdue
      exact .claims hdue rfl
  · cases h
    exact .rests rfl rfl rfl
  · rename_i place entry
    split at h <;> cases h
    · rename_i htype
      exact .sends rfl htype
    · rename_i htype
      have hsent : (Phase.claiming place entry).sentBy .processOutboxEntry = none := by
        show (if entry.type = .EMAIL then some place else none) = none
        rw [htype]
        rfl
      exact .moves rfl hsent rfl nofun fun hphase => hphase.1
  · cases h
    exact .moves rfl rfl rfl nofun id
  · cases h
    exact .moves rfl rfl rfl nofun .inl
  · cases h
    exact effect_markProcessed config rfl rfl rfl (.inl rfl)
  · rename_i applied message place entry
    cases h
    cases applied with
    | true => exact effect_markProcessed config rfl rfl rfl (.inr ⟨message, rfl⟩)
    | false => exact .moves rfl rfl rfl nofun .inl
  · cases h
    exact effect_markFailedAttempt config rfl rfl rfl
  · rename_i applied place entry message
    cases h
    cases applied with
    | true => exact effect_markFailedAttempt config rfl rfl rfl
    | false => exact .rests rfl rfl rfl
  · cases h
  · cases h
    exact .rests rfl rfl rfl
  · cases h

/-- A step that a worker is not ready for neither drops an entry nor sends one. -/
theorem act_none {config : Config} (worker : ℕ) {action : Action} {s : Store} {p : Phase}
    (h : act config worker action s p = none) :
    p.droppedBy action = none ∧ p.sentBy action = none := by
  cases action with
  | markFailedAttemptError applied =>
    cases applied <;> cases p <;> first | exact ⟨rfl, rfl⟩ | cases h
  | processOutboxEntry =>
    cases p with
    | claiming place entry =>
      unfold act at h
      dsimp only at h
      split at h <;> cases h
    | _ => exact ⟨rfl, rfl⟩
  | _ => cases p <;> first | exact ⟨rfl, rfl⟩ | cases h

/-! ## The invariant is kept -/

theorem StoreInv.updateOne {config : Config} {s : Store} (h : StoreInv config s) {place : ℕ}
    (hlt : place < s.enqueued) {f : Entry → Entry}
    (hf : ∀ sends, EntryInv config sends (s.entry place) →
      EntryInv config sends (f (s.entry place))) : StoreInv config (s.updateOne place f) := by
  constructor
  · intro place'
    by_cases hp : place' = place
    · rw [hp, entry_updateOne_self]
      exact hf _ (h.entries place)
    · rw [entry_updateOne_of_ne s hp]
      exact h.entries place'
  · intro place' hplace'
    have hle : s.enqueued ≤ place' := hplace'
    rw [entry_updateOne_of_ne s (by omega)]
    exact h.unused place' hle

/-- What is known of a worker is not disturbed by what happens to other entries than its own. -/
theorem PhaseInv.frame {s s' : Store} {p : Phase} (h : PhaseInv s p)
    (henqueued : s.enqueued ≤ s'.enqueued)
    (hentry : ∀ place, p.holds = some place → place < s.enqueued →
      s'.entry place = s.entry place ∧ s'.sends.count place = s.sends.count place) :
    PhaseInv s' p := by
  have hheld : ∀ {place entry}, p.holds = some place → Held s place entry → Held s' place entry := by
    intro place entry hholds hheld
    obtain ⟨hsame, -⟩ := hentry place hholds hheld.enqueued
    refine ⟨lt_of_lt_of_le hheld.enqueued henqueued, ?_, ?_⟩
    · rw [hsame]
      exact hheld.processing
    · rw [hsame]
      exact hheld.attempts
  cases p with
  | claiming place entry =>
    refine ⟨hheld rfl h.1, ?_⟩
    rw [(hentry place rfl h.1.enqueued).2]
    exact h.2
  | sending place entry => exact hheld rfl h
  | markingProcessed place entry => exact hheld rfl h
  | markingFailed place entry message =>
    rcases h with h | ⟨hlt, hprocessed⟩
    · exact .inl (hheld rfl h)
    · refine .inr ⟨lt_of_lt_of_le hlt henqueued, ?_⟩
      rw [(hentry place rfl hlt).1]
      exact hprocessed
  | idle => trivial
  | stopped => trivial

/-- An entry that a worker holds is processing, or processed. -/
theorem PhaseInv.status {s : Store} {p : Phase} (h : PhaseInv s p) {place : ℕ}
    (hholds : p.holds = some place) :
    (s.entry place).status = .processing ∨ (s.entry place).status = .processed := by
  cases p with
  | claiming place' entry =>
    cases hholds
    exact .inl h.1.processing
  | sending place' entry =>
    cases hholds
    exact .inl h.processing
  | markingProcessed place' entry =>
    cases hholds
    exact .inl h.processing
  | markingFailed place' entry message =>
    cases hholds
    exact h.imp Held.processing And.right
  | idle => cases hholds
  | stopped => cases hholds

theorem PhaseInv.lt {s : Store} {p : Phase} (h : PhaseInv s p) {place : ℕ}
    (hholds : p.holds = some place) : place < s.enqueued := by
  cases p with
  | claiming place' entry =>
    cases hholds
    exact h.1.enqueued
  | sending place' entry =>
    cases hholds
    exact h.enqueued
  | markingProcessed place' entry =>
    cases hholds
    exact h.enqueued
  | markingFailed place' entry message =>
    cases hholds
    exact h.elim Held.enqueued And.left
  | idle => cases hholds
  | stopped => cases hholds

theorem EntryInv.pending {config : Config} {sends : ℕ} {e : Entry} (h : EntryInv config sends e)
    (hpending : e.status = .pending) : sends ≤ e.attempts ∧ e.attempts < config.bound := by
  rw [EntryInv, hpending] at h
  exact h

theorem EntryInv.processing {config : Config} {sends : ℕ} {e : Entry} (h : EntryInv config sends e)
    (hprocessing : e.status = .processing) :
    sends ≤ e.attempts + 1 ∧ e.attempts < config.bound := by
  rw [EntryInv, hprocessing] at h
  exact h

section kept

variable {config : Config} {s : System Store Phase}

/-- A worker that holds nothing new leaves what the others hold. -/
theorem both_of_holds (h : Holds (assertions config) s) {r : ℕ} {q : Phase}
    (hq : q.holds = none ∨ q.holds = (s.phase r).holds) {r' : ℕ} (hr' : r' ≠ r) :
    (assertions config).both q (s.phase r') ∧ (assertions config).both (s.phase r') q := by
  rcases hq with hq | hq
  · exact ⟨fun place hb => (nomatch hq.symm.trans hb.1),
      fun place hb => (nomatch hq.symm.trans hb.2)⟩
  · exact ⟨fun place hb => h.both r r' (Ne.symm hr') place ⟨hq ▸ hb.1, hb.2⟩,
      fun place hb => h.both r' r hr' place ⟨hb.1, hq ▸ hb.2⟩⟩

/-- A new entry is pending, and no worker has it. -/
theorem holds_enqueueOutbox (h : Holds (assertions config) s) (type : EntryType) :
    Holds (assertions config) (step (program config) (.other (.enqueueOutbox type)) s) := by
  refine h.other ⟨fun place => ?_, fun place hplace => ?_⟩ fun r =>
    (h.own r).frame (Nat.le_succ _) fun place _ hlt =>
      ⟨Function.update_of_ne hlt.ne _ _, rfl⟩
  · show EntryInv config (s.stored.sends.count place)
      (Function.update s.stored.entry s.stored.enqueued (newEntry type s.stored.now) place)
    by_cases hp : place = s.stored.enqueued
    · rw [hp, Function.update_self, (h.store.unused _ le_rfl).1]
      exact ⟨le_rfl, le_max_right config.MAX_ATTEMPTS 1⟩
    · rw [Function.update_of_ne hp]
      exact h.store.entries place
  · have hle : s.stored.enqueued + 1 ≤ place := hplace
    have hne : place ≠ s.stored.enqueued := by omega
    obtain ⟨hzero, hpending⟩ := h.store.unused place (Nat.le_of_succ_le hle)
    exact ⟨hzero, (congrArg Entry.status (Function.update_of_ne hne _ _)).trans hpending⟩

/-- An entry that is claimed is pending, and so is held by no worker. -/
theorem keeps_claim (h : Holds (assertions config) s) {r place : ℕ}
    (hdue : nextDue s.stored = some place) :
    Keeps (assertions config) s r (s.stored.updateOne place Entry.claim,
      .claiming place (s.stored.entry place).claim) := by
  obtain ⟨hlt, hpending⟩ := nextDue_spec hdue
  obtain ⟨hsends, hattempts⟩ := (h.store.entries place).pending hpending
  have hnew : ∀ r' place', (s.phase r').holds = some place' → place' ≠ place := by
    rintro r' place' hholds rfl
    have hstatus := (h.own r').status hholds
    rw [hpending] at hstatus
    exact hstatus.elim nofun nofun
  have hself := entry_updateOne_self s.stored place Entry.claim
  refine ⟨h.store.updateOne hlt fun sends hentry => ?_, ⟨⟨hlt, ?_, ?_⟩, hsends⟩, fun r' _ => ?_,
    fun r' _ => ⟨fun place' hb => ?_, fun place' hb => ?_⟩⟩
  · obtain ⟨hle, hbound⟩ := hentry.pending hpending
    exact ⟨Nat.le_succ_of_le hle, hbound⟩
  · rw [hself]
    rfl
  · rw [hself]
  · exact (h.own r').frame le_rfl fun place' hholds _ =>
      ⟨entry_updateOne_of_ne s.stored (hnew r' place' hholds) _, rfl⟩
  · exact hnew r' place' hb.2 (Option.some.inj hb.1).symm
  · exact hnew r' place' hb.1 (Option.some.inj hb.2).symm

/-- An entry is sent by the worker that holds it. -/
theorem keeps_send (h : Holds (assertions config) s) {r place : ℕ} {entry : Entry}
    (hp : s.phase r = .claiming place entry) :
    Keeps (assertions config) s r
      ({ s.stored with sends := place :: s.stored.sends }, .sending place entry) := by
  have hphase := h.own r
  rw [hp] at hphase
  obtain ⟨hheld, hsends⟩ := hphase
  have hholds : (s.phase r).holds = some place := by rw [hp]; rfl
  have hcount : ∀ place', place' ≠ place →
      (place :: s.stored.sends).count place' = s.stored.sends.count place' :=
    fun place' hne => List.count_cons_of_ne (Ne.symm hne)
  refine ⟨⟨fun place' => ?_, fun place' hplace' => ?_⟩,
    ⟨hheld.enqueued, hheld.processing, hheld.attempts⟩, fun r' hr' => ?_,
    fun r' hr' => both_of_holds h (.inr (by rw [hp]; rfl)) hr'⟩
  · show EntryInv config ((place :: s.stored.sends).count place') (s.stored.entry place')
    by_cases hne : place' = place
    · have hbound := ((h.store.entries place).processing hheld.processing).2
      rw [hne, List.count_cons_self, EntryInv, hheld.processing]
      exact ⟨Nat.succ_le_succ (hsends.trans_eq hheld.attempts.symm), hbound⟩
    · rw [hcount place' hne]
      exact h.store.entries place'
  · have hle : s.stored.enqueued ≤ place' := hplace'
    have hlt := hheld.enqueued
    obtain ⟨hzero, hpending⟩ := h.store.unused place' hle
    exact ⟨(hcount place' (by omega)).trans hzero, hpending⟩
  · refine (h.own r').frame le_rfl fun place' hholds' _ => ⟨rfl, hcount place' ?_⟩
    rintro rfl
    exact h.both r r' (Ne.symm hr') place' ⟨hholds, hholds'⟩

end kept

/-- A step keeps the invariant. -/
theorem holds_step (config : Config) (event : Event Action Other) (s : System Store Phase)
    (h : Holds (assertions config) s) :
    Holds (assertions config) (step (program config) event s) := by
  cases event with
  | other event =>
    cases event with
    | wait milliseconds =>
      exact h.other ⟨h.store.entries, h.store.unused⟩ fun r =>
        (h.own r).frame le_rfl fun _ _ _ => ⟨rfl, rfl⟩
    | enqueueOutbox type => exact holds_enqueueOutbox h type
  | act r action =>
    refine h.act fun result hresult => ?_
    obtain ⟨s', p'⟩ := result
    have hphase := h.own r
    cases act_effect r hresult with
    | rests hq hdropped hsent =>
      refine ⟨h.store, ?_, fun r' _ => h.own r', fun r' hr' => both_of_holds h (.inl hq) hr'⟩
      cases p' with
      | idle => trivial
      | stopped => trivial
      | _ => cases hq
    | moves hdropped hsent hholds hq hnext =>
      exact ⟨h.store, hnext hphase, fun r' _ => h.own r',
        fun r' hr' => both_of_holds h (.inr hholds) hr'⟩
    | claims hdue hp => exact keeps_claim h hdue
    | sends hp htype => exact keeps_send h hp
    | updates hdropped hsent hp hholds hq hf hsame hentry hnext =>
      rename_i place f
      refine ⟨h.store.updateOne (hphase.lt hp) (hentry hphase), hnext hphase, fun r' hr' => ?_,
        fun r' hr' => both_of_holds h (hholds.imp id fun hq => hq.trans hp.symm) hr'⟩
      refine (h.own r').frame le_rfl fun place' hholds' _ =>
        ⟨entry_updateOne_of_ne s.stored ?_ f, rfl⟩
      rintro rfl
      exact h.both r r' (Ne.symm hr') place' ⟨hp, hholds'⟩

theorem holds_initial (config : Config) : Holds (assertions config) initial :=
  ⟨⟨fun _ => ⟨le_rfl, le_max_right config.MAX_ATTEMPTS 1⟩, fun _ _ => ⟨rfl, rfl⟩⟩,
    fun _ => trivial, fun _ _ _ _ hb => nomatch hb.1⟩

theorem holds_run (config : Config) (events : List (Event Action Other)) :
    Holds (assertions config) (run (step (program config)) events initial) :=
  run_keeps (holds_step config) events initial (holds_initial config)

/-! ## Settled entries -/

/-- An entry is settled, has been sent so many times, and is not about to be. -/
def settledAt (place sends : ℕ) : Assertions Store Phase where
  store s := (s.entry place).status.isSettled = true ∧ s.sends.count place = sends ∧
    place < s.enqueued
  own _ _ p := ∀ entry, p ≠ .claiming place entry
  both _ _ := True

theorem settledAt_step (config : Config) {place sends : ℕ} (event : Event Action Other)
    (s : System Store Phase) (h : Holds (settledAt place sends) s) :
    Holds (settledAt place sends) (step (program config) event s) := by
  obtain ⟨hsettled, hsends, hlt⟩ := h.store
  have hother : ∀ {place'}, (s.stored.entry place').status.isSettled = false → place ≠ place' := by
    rintro place' hopen rfl
    rw [hsettled] at hopen
    cases hopen
  cases event with
  | other event =>
    cases event with
    | wait milliseconds => exact h.other h.store h.own
    | enqueueOutbox type =>
      refine h.other ⟨?_, hsends, Nat.lt_succ_of_lt hlt⟩ h.own
      exact (congrArg (fun e => Entry.status e |>.isSettled)
        (Function.update_of_ne hlt.ne _ _)).trans hsettled
  | act r action =>
    refine h.act fun result hresult => ?_
    obtain ⟨s', p'⟩ := result
    have hnext : (∀ entry, p' ≠ .claiming place entry) → (settledAt place sends).store s' →
        Keeps (settledAt place sends) s r (s', p') :=
      fun hp hstore => ⟨hstore, hp, fun r' _ => h.own r', fun _ _ => ⟨trivial, trivial⟩⟩
    cases act_effect r hresult with
    | rests hq hdropped hsent =>
      exact hnext (fun entry hp => by rw [hp] at hq; cases hq) h.store
    | moves hdropped hsent hholds hq hphase => exact hnext (hq place) h.store
    | claims hdue hp =>
      obtain ⟨-, hpending⟩ := nextDue_spec hdue
      have hne := hother (by rw [hpending]; rfl)
      refine hnext (fun entry hp => ?_) ⟨?_, hsends, hlt⟩
      · cases hp
        exact hne rfl
      · rw [entry_updateOne_of_ne s.stored hne]
        exact hsettled
    | sends hp htype =>
      rename_i place' entry
      have hne : place' ≠ place := by
        rintro rfl
        exact h.own r entry hp
      exact hnext nofun ⟨hsettled, (List.count_cons_of_ne hne).trans hsends, hlt⟩
    | updates hdropped hsent hp hholds hq hf hsame hentry hphase =>
      rename_i place' f
      refine hnext (hq place) ⟨?_, hsends, hlt⟩
      by_cases hplace : place = place'
      · have hstays : (s.stored.entry place').status ≠ .processing := by
          rw [← hplace]
          intro hprocessing
          rw [hprocessing] at hsettled
          cases hsettled
        rw [hplace, entry_updateOne_self, hsame _ hstays, ← hplace]
        exact hsettled
      · rw [entry_updateOne_of_ne s.stored hplace]
        exact hsettled

/-- An entry that is settled is not sent again, in any run. -/
theorem sends_of_settled (config : Config) {before after : List (Event Action Other)} {place : ℕ}
    (hsettled : ((run (step (program config)) before initial).stored.entry
      place).status.isSettled = true) :
    (run (step (program config)) (before ++ after) initial).stored.sends.count place =
      (run (step (program config)) before initial).stored.sends.count place := by
  have hinv := holds_run config before
  have hlt : place < (run (step (program config)) before initial).stored.enqueued := by
    by_contra hle
    rw [(hinv.store.unused place (not_lt.mp hle)).2] at hsettled
    cases hsettled
  have hstart : Holds (settledAt place ((run (step (program config)) before
      initial).stored.sends.count place)) (run (step (program config)) before initial) := by
    refine ⟨⟨hsettled, rfl, hlt⟩, fun r entry hp => ?_, fun _ _ _ => trivial⟩
    have hphase := hinv.own r
    rw [hp] at hphase
    rw [hphase.1.processing] at hsettled
    cases hsettled
  rw [run_append]
  exact (run_keeps (settledAt_step config) after _ hstart).store.2.1

/-- No entry is being sent by two workers, in any run. -/
theorem exclusive_of_holds {config : Config} {s : System Store Phase}
    (h : Holds (assertions config) s) {r r' place : ℕ} (hr : (s.phase r).sends = some place)
    (hr' : (s.phase r').sends = some place) : r = r' := by
  have hholds : ∀ {p : Phase}, p.sends = some place → p.holds = some place := by
    intro p hp
    cases p <;> cases hp
    rfl
  by_contra hne
  exact h.both r r' hne place ⟨hholds hr, hholds hr'⟩

/-! ## Entries that are not stranded -/

/-- What is asked of each state. -/
structure Sound (config : Config) (s : System Store Phase) : Prop where
  bounded : ∀ place, s.stored.sends.count place ≤ config.MAX_ATTEMPTS
  notStranded : NotStranded s

/-- After a step of a worker, an entry is pending, held by the worker, or as it was and held by
another one. -/
theorem NotStranded.after {s : System Store Phase} (h : NotStranded s) {r : ℕ} {s' : Store}
    {q : Phase} (hplace : ∀ place, place < s'.enqueued →
      (s'.entry place).status.isSettled = false → (s'.entry place).status = .pending ∨
        q.holds = some place ∨ (s.phase r).holds ≠ some place ∧ place < s.stored.enqueued ∧
          (s.stored.entry place).status = (s'.entry place).status) :
    NotStranded (s.after r (s', q)) := by
  intro place hlt hopen
  rcases hplace place hlt hopen with hpending | hholds | ⟨hother, hlt', hstatus⟩
  · exact .inl hpending
  · refine .inr ⟨r, ?_⟩
    rw [after_phase_self]
    exact hholds
  · rcases h place hlt' (by rw [hstatus]; exact hopen) with hpending | ⟨r', hr'⟩
    · exact .inl (hstatus.symm.trans hpending)
    · have hne : r' ≠ r := fun heq => hother (heq ▸ hr')
      refine .inr ⟨r', ?_⟩
      rw [after_phase_of_ne s hne]
      exact hr'

/-- A worker's step that changes neither what is sent nor what is held keeps every state sound. -/
theorem Sound.after {config : Config} {s : System Store Phase} (h : Sound config s) {r : ℕ}
    {s' : Store} {q : Phase} (hsends : s'.sends = s.stored.sends)
    (hplace : ∀ place, place < s'.enqueued →
      (s'.entry place).status.isSettled = false → (s'.entry place).status = .pending ∨
        q.holds = some place ∨ (s.phase r).holds ≠ some place ∧ place < s.stored.enqueued ∧
          (s.stored.entry place).status = (s'.entry place).status) :
    Sound config (s.after r (s', q)) := by
  refine ⟨fun place => ?_, h.notStranded.after hplace⟩
  show s'.sends.count place ≤ config.MAX_ATTEMPTS
  rw [hsends]
  exact h.bounded place

section sound

variable {config : Config} {s : System Store Phase}

theorem Sound.enqueueOutbox (h : Sound config s) (type : EntryType) :
    Sound config (step (program config) (.other (.enqueueOutbox type)) s) := by
  refine ⟨h.bounded, fun place hlt hopen => ?_⟩
  have hnext : place < s.stored.enqueued + 1 := hlt
  have hopen' : (Function.update s.stored.entry s.stored.enqueued
    (newEntry type s.stored.now) place).status.isSettled = false := hopen
  show (Function.update s.stored.entry s.stored.enqueued
    (newEntry type s.stored.now) place).status = .pending ∨ _
  by_cases hp : place = s.stored.enqueued
  · rw [hp, Function.update_self]
    exact .inl rfl
  · rw [Function.update_of_ne hp] at hopen' ⊢
    exact h.notStranded place (by omega) hopen'

/-- When a worker lets go of what it holds, no entry is stranded exactly when that one is not
processing. -/
theorem sound_rest_iff (hinv : Holds (assertions config) s) (h : Sound config s) {r : ℕ} {q : Phase}
    (hq : q.holds = none) :
    Sound config (s.after r (s.stored, q)) ↔
      ∀ place, (s.phase r).holds = some place → (s.stored.entry place).status ≠ .processing := by
  have hphase := hinv.own r
  constructor
  · intro hafter place hholds hprocessing
    have hopen : (s.stored.entry place).status.isSettled = false := by
      rw [hprocessing]
      rfl
    rcases hafter.notStranded place (hphase.lt hholds) hopen with hpending | ⟨r', hr'⟩
    · exact nomatch hprocessing.symm.trans hpending
    · by_cases hr : r' = r
      · rw [hr, after_phase_self] at hr'
        exact nomatch hq.symm.trans hr'
      · rw [after_phase_of_ne s hr] at hr'
        exact hinv.both r' r hr place ⟨hr', hholds⟩
  · intro hkept
    refine h.after rfl fun place hlt hopen => .inr (.inr ⟨fun hholds => ?_, hlt, rfl⟩)
    rcases hphase.status hholds with hstatus | hstatus
    · exact hkept place hholds hstatus
    · rw [hstatus] at hopen
      cases hopen

theorem Sound.claim (h : Sound config s) {r place : ℕ} (hp : (s.phase r).holds = none)
    (entry : Entry) :
    Sound config (s.after r (s.stored.updateOne place Entry.claim, .claiming place entry)) := by
  refine h.after rfl fun place' hlt hopen => ?_
  by_cases hplace : place' = place
  · rw [hplace]
    exact .inr (.inl rfl)
  · refine .inr (.inr ⟨fun hholds => (nomatch hp.symm.trans hholds), hlt, ?_⟩)
    rw [entry_updateOne_of_ne s.stored hplace]

/-- A mail is within the bound exactly when there is to be an attempt. -/
theorem sound_send_iff (hinv : Holds (assertions config) s) (h : Sound config s) {r place : ℕ}
    {entry : Entry} (hp : s.phase r = .claiming place entry) :
    Sound config (s.after r
        ({ s.stored with sends := place :: s.stored.sends }, .sending place entry)) ↔
      0 < config.MAX_ATTEMPTS := by
  constructor
  · intro hafter
    have hbounded : (place :: s.stored.sends).count place ≤ config.MAX_ATTEMPTS :=
      hafter.bounded place
    rw [List.count_cons_self] at hbounded
    omega
  · intro hpos
    have hbound : config.bound = config.MAX_ATTEMPTS := max_eq_left hpos
    have hafter := hinv.after (keeps_send hinv hp)
    refine ⟨fun place' => ?_, h.notStranded.after fun place' hlt hopen => ?_⟩
    · rw [← hbound]
      exact (hafter.store.entries place').le_bound
    · by_cases hholds : (s.phase r).holds = some place'
      · rw [hp] at hholds
        exact .inr (.inl hholds)
      · exact .inr (.inr ⟨hholds, hlt, rfl⟩)

/-- An entry that is updated does not stay in processing. -/
theorem Sound.update (h : Sound config s) {r place : ℕ} (hp : (s.phase r).holds = some place)
    {f : Entry → Entry} (hf : ∀ e, (f e).status ≠ .processing) (q : Phase) :
    Sound config (s.after r (s.stored.updateOne place f, q)) := by
  refine h.after rfl fun place' hlt hopen => ?_
  by_cases hplace : place' = place
  · rw [hplace, entry_updateOne_self] at hopen ⊢
    have hne := hf (s.stored.entry place)
    cases hstatus : (f (s.stored.entry place)).status <;> rw [hstatus] at hopen hne
    · exact .inl rfl
    · exact absurd rfl hne
    · cases hopen
    · cases hopen
  · refine .inr (.inr ⟨fun hother => ?_, hlt, ?_⟩)
    · exact hplace (Option.some.inj (hother.symm.trans hp))
    · rw [entry_updateOne_of_ne s.stored hplace]

end sound

/-- A step leaves a sound state exactly when the entry is kept. -/
theorem sound_step_iff (config : Config) (event : Event Action Other) (s : System Store Phase)
    (hinv : Holds (assertions config) s) (h : Sound config s) :
    Sound config (step (program config) event s) ↔ KeepsEntry config event s := by
  cases event with
  | other event =>
    refine iff_of_true ?_ trivial
    cases event with
    | wait milliseconds => exact ⟨h.bounded, h.notStranded⟩
    | enqueueOutbox type => exact h.enqueueOutbox type
  | act r action =>
    have hkeeps : (s.phase r).droppedBy action = none → (s.phase r).sentBy action = none →
        KeepsEntry config (.act r action) s :=
      fun hdropped hsent => ⟨fun place hp => (nomatch hdropped.symm.trans hp),
        fun place hp => (nomatch hsent.symm.trans hp)⟩
    cases hresult : (program config).act r action s.stored (s.phase r) with
    | none =>
      obtain ⟨hdropped, hsent⟩ := act_none r hresult
      rw [step_act_none hresult]
      exact iff_of_true h (hkeeps hdropped hsent)
    | some result =>
      obtain ⟨s', p'⟩ := result
      rw [step_act hresult]
      cases act_effect r hresult with
      | rests hq hdropped hsent =>
        rw [sound_rest_iff hinv h hq, ← hdropped]
        exact (and_iff_left fun place hp => (nomatch hsent.symm.trans hp)).symm
      | moves hdropped hsent hholds hq hnext =>
        refine iff_of_true (h.after rfl fun place hlt hopen => ?_) (hkeeps hdropped hsent)
        by_cases hp : (s.phase r).holds = some place
        · exact .inr (.inl (hholds.trans hp))
        · exact .inr (.inr ⟨hp, hlt, rfl⟩)
      | claims hdue hp =>
        refine iff_of_true (h.claim (by rw [hp]; rfl) _) (hkeeps ?_ ?_)
        · rw [hp]
          rfl
        · rw [hp]
          rfl
      | sends hp htype =>
        rename_i place entry
        have hsent : (s.phase r).sentBy .processOutboxEntry = some place := by
          rw [hp]
          exact if_pos htype
        have hdropped : (s.phase r).droppedBy .processOutboxEntry = none := by
          rw [hp]
          rfl
        rw [sound_send_iff hinv h hp]
        exact ⟨fun hpos => ⟨fun place' hp' => (nomatch hdropped.symm.trans hp'), fun _ _ => hpos⟩,
          fun hkept => hkept.2 place hsent⟩
      | updates hdropped hsent hp hholds hq hf hsame hentry hnext =>
        exact iff_of_true (h.update hp hf _) (hkeeps hdropped hsent)

/-- **The outbox delivers as is asked exactly in the runs in which no worker drops an entry that is
processing, and none is sent when no attempt is allowed.** -/
theorem bounded_delivery_iff (config : Config) (events : List (Event Action Other)) :
    BoundedDelivery config events ↔
      Admits (step (program config)) (KeepsEntry config) events initial := by
  have hsound : Sound config initial :=
    ⟨fun _ => Nat.zero_le _, fun place hlt => absurd hlt (Nat.not_lt_zero place)⟩
  have hstep : ∀ event s, Holds (assertions config) s ∧ Sound config s → KeepsEntry config event s →
      Holds (assertions config) (step (program config) event s) ∧
        Sound config (step (program config) event s) :=
    fun event s hs hok =>
      ⟨holds_step config event s hs.1, (sound_step_iff config event s hs.1 hs.2).mpr hok⟩
  have hiff : (∀ s ∈ states (step (program config)) events initial, Sound config s) ↔
      Admits (step (program config)) (KeepsEntry config) events initial :=
    states_forall_iff hstep (fun event s hs => sound_step_iff config event s hs.1 hs.2) events
      initial ⟨holds_initial config, hsound⟩
  rw [← hiff]
  constructor
  · exact fun h s hs => ⟨h.bounded s hs, h.notStranded s hs⟩
  · intro h
    refine ⟨fun s hs r r' place hr hr' => ?_, fun s hs => (h s hs).bounded,
      fun before after hevents place hsettled => ?_, fun s hs => (h s hs).notStranded⟩
    · have hinv : Holds (assertions config) s :=
        states_keep (holds_step config) events initial (holds_initial config) s hs
      exact exclusive_of_holds hinv hr hr'
    · rw [hevents]
      exact sends_of_settled config hsettled

/-! ## A worker that stops -/

/-- A worker stops while it sends. -/
def stopsWhileSending : List (Event Action Other) :=
  [.other (.enqueueOutbox .EMAIL), .act 0 .claimNextPending, .act 0 .processOutboxEntry,
    .act 0 .stop]

/-- The entry stays in processing, and nobody holds it. -/
theorem bounded_delivery_fails : ¬ BoundedDelivery ⟨8, 2000⟩ stopsWhileSending := by
  intro h
  have hlast := h.notStranded _ (run_mem_states _ _ _) 0 (by decide) (by decide)
  rcases hlast with hpending | ⟨r, hholds⟩
  · exact absurd hpending (by decide)
  · have hnone : ((run (step (program ⟨8, 2000⟩)) stopsWhileSending initial).phase r).holds =
        none := by
      cases r <;> rfl
    exact nomatch hnone.symm.trans hholds

end Docketra.Outbox
