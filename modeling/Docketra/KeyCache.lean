import Docketra.Encryption
import Docketra.Lib.Buffers
import Docketra.Lib.Inserting
import Docketra.Lib.Runs
import Mathlib.Data.UInt

/-!
# The cache of tenant keys

`LocalEncryptionProvider` of `security/encryption.local.provider.js` keeps the unwrapped keys of up
to 500 tenants in one cache for the process, by recency. `_unwrapDek` puts a key there as soon as it
has read its record, also when the record is one that its own transaction has inserted and may still
abort. The module models the provider's calls as they interleave at their `await`s, with the
transactions they run in and the buffers that hold the keys.

The bound of the cache and the buffers in use are safe in every run (`Held`). The encrypted values
can be decrypted as long as every call that is answered from the cache gets the key of the record
that is stored, or that its own transaction has inserted (`keys_cached_with_their_records`).
-/

namespace Docketra.KeyCache

open Base64 Buffers Checked Encryption Inserting Runs

/-! ## The cache -/

def TENANT_KEY_CACHE_MAX_SIZE : ℕ := 500

/-- An entry of the cache: the tenant, and the buffer of its key. -/
structure Entry where
  tenantId : String
  dek : ℕ
  deriving DecidableEq

/-- The memory of the process, and its cache, the oldest entry first. -/
structure Process where
  memory : Memory UInt8
  cache : List Entry

/-- The entry of a tenant. -/
def Process.entry (p : Process) (tenantId : String) : Option Entry :=
  p.cache.find? fun entry => entry.tenantId = tenantId

/-- `cache.delete(tenantId)`. -/
def Process.delete (p : Process) (tenantId : String) : Process :=
  { p with cache := p.cache.filter fun entry => entry.tenantId ≠ tenantId }

/-- `cache.set(tenantId, dek)`, of a tenant that has been deleted. -/
def Process.push (p : Process) (entry : Entry) : Process := { p with cache := p.cache ++ [entry] }

def Process.copy (p : Process) (content : Bytes) : Process :=
  { p with memory := p.memory.copy content }

/-- `zeroBuffer`. -/
def Process.zeroBuffer (p : Process) (dek : ℕ) : Process :=
  { p with memory := p.memory.zero dek }

/-- The loop of `setCachedDek` over the oldest entries. -/
def evict (memory : Memory UInt8) : List Entry → Process
  | [] => ⟨memory, []⟩
  | oldest :: rest =>
    if TENANT_KEY_CACHE_MAX_SIZE < (oldest :: rest).length then evict (memory.zero oldest.dek) rest
    else ⟨memory, oldest :: rest⟩

/-- `getCachedDek`, when there is an entry: the entry becomes the newest, and its key is copied. -/
def getCachedDek (p : Process) (entry : Entry) : Process :=
  ((p.delete entry.tenantId).push entry).copy (p.memory.bytes entry.dek)

/-- The buffer that an entry replaces is overwritten. -/
def dropPrevious (p : Process) (tenantId : String) : Process :=
  match p.entry tenantId with
  | some previous => (p.zeroBuffer previous.dek).delete tenantId
  | none => p

/-- `setCachedDek`. -/
def setCachedDek (p : Process) (tenantId : String) (dek : ℕ) : Process :=
  let p := dropPrevious p tenantId
  let cached := p.memory.next
  let p := (p.copy (p.memory.bytes dek)).push ⟨tenantId, cached⟩
  evict p.memory p.cache

/-! ## The calls -/

/-- What a call is made for. -/
inductive Purpose where
  | encrypt (iv : Iv) (plaintext : String)
  | decrypt (ciphertext : String)

/-- Where a call waits: for the record, for its turn after the record has been read, or for its turn
with the key in a buffer. -/
inductive Phase where
  | reading
  | fetched (record : Option String)
  | keyed (dek : ℕ)

/-- A call of `encrypt` or `decrypt` in progress. -/
structure Call where
  tenantId : String
  purpose : Purpose
  transaction : Option ℕ
  phase : Phase

/-- A value that has been encrypted for a tenant. -/
structure Value where
  tenantId : String
  plaintext : String
  ciphertext : String
  deriving DecidableEq

/-- The records of `TenantKey`, the encrypted values that are committed and those of the open
transactions, and the process. -/
structure State where
  store : Store String String
  values : List Value
  pending : List (ℕ × Value)
  process : Process
  calls : ℕ → Option Call

/-- A process that has just been started. -/
def boot (records : String → Option String) : State where
  store := Store.initial records
  values := []
  pending := []
  process := ⟨Memory.empty, []⟩
  calls _ := none

/-- The steps of the system. A call is known by a number. -/
inductive Step where
  | startTransaction
  | commitTransaction (i : ℕ)
  | abortTransaction (i : ℕ)
  /-- `generateTenantKey`, with the random key and the vector that wraps it. -/
  | generateTenantKey (tenantId : String) (dek : Bytes) (iv : Iv) (transaction : Option ℕ)
  /-- `encrypt` or `decrypt` is called. -/
  | call (id : ℕ) (tenantId : String) (purpose : Purpose) (transaction : Option ℕ)
  /-- `TenantKey.findOne` reads the record. -/
  | findOne (id : ℕ)
  /-- The rest of `_unwrapDek`. -/
  | unwrap (id : ℕ)
  /-- The rest of `encrypt` or `decrypt`. -/
  | finish (id : ℕ)

section steps

variable (C : Crypto) (masterKey : Bytes)

def commitTransaction (i : ℕ) (s : State) : State :=
  { s with
    store := s.store.commit i
    values := s.values ++ (s.pending.filter fun p => p.1 = i).map Prod.snd
    pending := s.pending.filter fun p => p.1 ≠ i }

def abortTransaction (i : ℕ) (s : State) : State :=
  { s with
    store := s.store.abort i
    pending := s.pending.filter fun p => p.1 ≠ i }

/-- `generateTenantKey`. A conflict aborts the transaction. -/
def generateTenantKey (tenantId : String) (dek : Bytes) (iv : Iv) (transaction : Option ℕ)
    (s : State) : State :=
  if tenantId = "" then s
  else
    match s.store.insert transaction tenantId (wrapDek C masterKey dek iv), transaction with
    | some store, _ => { s with store }
    | none, some i => abortTransaction i s
    | none, none => s

/-- The calls, with another one under a number. -/
def State.setCall (s : State) (id : ℕ) (call : Option Call) : State :=
  { s with calls := Function.update s.calls id call }

/-- A call has the key in a new buffer, whose address was the next one. -/
def State.give (s : State) (id : ℕ) (call : Call) (dek : ℕ) (process : Process) : State :=
  { s with process }.setCall id (some { call with phase := .keyed dek })

/-- The number is that of a transaction that has begun. -/
def hasBegun (s : State) : Option ℕ → Bool
  | none => true
  | some i => i < s.store.begun

/-- `encrypt` or `decrypt` up to its first wait, with `_unwrapDek`. -/
def startCall (id : ℕ) (tenantId : String) (purpose : Purpose) (transaction : Option ℕ)
    (s : State) : State :=
  if tenantId = "" || (s.calls id).isSome || !hasBegun s transaction then s
  else
    let call : Call := { tenantId, purpose, transaction, phase := .reading }
    match s.process.entry tenantId with
    | some entry => s.give id call s.process.memory.next (getCachedDek s.process entry)
    | none => s.setCall id (some call)

/-- The query of `_unwrapDek`, in the transaction of the call. -/
def findOne (id : ℕ) (s : State) : State :=
  match s.calls id with
  | some call =>
    match call.phase with
    | .reading =>
      let record := s.store.visible call.transaction call.tenantId
      s.setCall id (some { call with phase := .fetched record })
    | _ => s
  | none => s

/-- The rest of `_unwrapDek`. A call whose record is missing, or cannot be unwrapped, fails. -/
def unwrap (id : ℕ) (s : State) : State :=
  match s.calls id with
  | some call =>
    match call.phase with
    | .fetched record =>
      match record.map (unwrapRecord C masterKey) with
      | some (.ok content) =>
        let dek := s.process.memory.next
        s.give id call dek (setCachedDek (s.process.copy content) call.tenantId dek)
      | _ => s.setCall id none
    | _ => s
  | none => s

/-- A value that a call has encrypted is written in its transaction. When that has ended, it is not
written. -/
def State.write (s : State) (transaction : Option ℕ) (value : Value) : State :=
  match transaction with
  | none => { s with values := s.values ++ [value] }
  | some i => if s.store.isOpen i then { s with pending := s.pending ++ [(i, value)] } else s

/-- The value that a call has encrypted, if it is one of `encrypt`. -/
def Call.result (call : Call) (dek : Bytes) : Option Value :=
  match call.purpose with
  | .encrypt iv plaintext =>
    some ⟨call.tenantId, plaintext, encryptWith C dek iv plaintext⟩
  | .decrypt _ => none

/-- The rest of `encrypt` or `decrypt`: the key is used, and its buffer is overwritten. -/
def finish (id : ℕ) (s : State) : State :=
  match s.calls id with
  | some call =>
    match call.phase with
    | .keyed dek =>
      let s' := { s with process := s.process.zeroBuffer dek }.setCall id none
      match call.result C (s.process.memory.bytes dek) with
      | some value => s'.write call.transaction value
      | none => s'
    | _ => s
  | none => s

def step : Step → State → State
  | .startTransaction, s => { s with store := s.store.begin }
  | .commitTransaction i, s => commitTransaction i s
  | .abortTransaction i, s => abortTransaction i s
  | .generateTenantKey tenantId dek iv transaction, s =>
    generateTenantKey C masterKey tenantId dek iv transaction s
  | .call id tenantId purpose transaction, s => startCall id tenantId purpose transaction s
  | .findOne id, s => findOne id s
  | .unwrap id, s => unwrap C masterKey id s
  | .finish id, s => finish C id s

end steps

/-! ## What is asked -/

section statements

variable (C : Crypto) (masterKey : Bytes)

/-- `decrypt` of a value in a fresh process. -/
def freshDecrypt (s : State) (value : Value) : Except EncryptionError String := do
  let dek ← unwrapDek C ⟨masterKey, s.store.stored⟩ value.tenantId
  decryptWith C dek value.ciphertext

/-- The transaction of a call has not ended. -/
def State.isLive (s : State) (call : Call) : Prop :=
  ∀ i, call.transaction = some i → s.store.isOpen i = true

/-- The committed values can be decrypted, by a fresh process and by the calls in progress. -/
structure Decryptable (s : State) : Prop where
  fresh : ∀ value ∈ s.values, freshDecrypt C masterKey s value = .ok value.plaintext
  inProgress : ∀ id call dek, s.calls id = some call → s.isLive call → call.phase = .keyed dek →
    ∀ value ∈ s.values, call.tenantId = value.tenantId → call.purpose = .decrypt value.ciphertext →
      decryptWith C (s.process.memory.bytes dek) value.ciphertext = .ok value.plaintext

/-- The calls that stay in progress have the keys that they had. -/
def Intact (s s' : State) : Prop :=
  ∀ id call dek, s.calls id = some call → call.phase = .keyed dek → s'.calls id = some call →
    s'.process.memory.bytes dek = s.process.memory.bytes dek

/-- A call that is answered from the cache gets the key of the tenant's record that is stored, or
that its own transaction has inserted. -/
def FindsCurrent : Step → State → Prop
  | .call _ tenantId _ transaction, s =>
    ∀ entry, s.process.entry tenantId = some entry →
      ∃ record, s.store.current transaction tenantId = some record ∧
        unwrapRecord C masterKey record = .ok (s.process.memory.bytes entry.dek)
  | _, _ => True

end statements

/-! ## Buffers -/

/-- The cache has the buffer. -/
def Process.holds (p : Process) (a : ℕ) : Prop := ∃ entry ∈ p.cache, entry.dek = a

/-- From a process to a later one, only buffers of the cache have changed, and only new buffers have
come into it. -/
structure Evolves (p p' : Process) : Prop where
  keeps : Keeps p.holds p.memory p'.memory
  cached : ∀ entry ∈ p'.cache,
    entry ∈ p.cache ∨ p.memory.next ≤ entry.dek ∧ entry.dek < p'.memory.next

theorem Evolves.refl (p : Process) : Evolves p p := ⟨.refl _ _, fun _ => .inl⟩

theorem Evolves.trans {p p' p'' : Process} (h : Evolves p p') (h' : Evolves p' p'') :
    Evolves p p'' where
  keeps := by
    refine h.keeps.trans h'.keeps fun a ha hholds => ?_
    obtain ⟨entry, hentry, rfl⟩ := hholds
    rcases h.cached entry hentry with hold | hnew
    · exact ⟨entry, hold, rfl⟩
    · omega
  cached entry hentry := by
    have hle := h.keeps.next_le
    have hle' := h'.keeps.next_le
    rcases h'.cached entry hentry with hbetween | hnew
    · rcases h.cached entry hbetween with hold | hnew
      · exact .inl hold
      · exact .inr (by omega)
    · exact .inr (by omega)

theorem evolves_delete (p : Process) (tenantId : String) : Evolves p (p.delete tenantId) :=
  ⟨.refl _ _, fun _ hentry => .inl (List.mem_filter.1 hentry).1⟩

theorem evolves_zeroBuffer {p : Process} {entry : Entry} (h : entry ∈ p.cache) :
    Evolves p (p.zeroBuffer entry.dek) :=
  ⟨keeps_zero _ ⟨entry, h, rfl⟩, fun _ => .inl⟩

theorem evolves_copy (p : Process) (content : Bytes) : Evolves p (p.copy content) :=
  ⟨keeps_copy _ _ _, fun _ => .inl⟩

theorem mem_of_entry {p : Process} {tenantId : String} {entry : Entry}
    (h : p.entry tenantId = some entry) : entry ∈ p.cache := List.mem_of_find?_eq_some h

theorem tenantId_of_entry {p : Process} {tenantId : String} {entry : Entry}
    (h : p.entry tenantId = some entry) : entry.tenantId = tenantId := by
  have hfound := List.find?_some h
  simpa using hfound

theorem length_delete_lt {p : Process} {tenantId : String} {entry : Entry}
    (h : p.entry tenantId = some entry) : (p.delete tenantId).cache.length < p.cache.length := by
  refine List.length_filter_lt_length_iff_exists.2 ⟨entry, mem_of_entry h, ?_⟩
  simpa using tenantId_of_entry h

/-- The oldest entries are evicted until the cache is small enough. -/
theorem evict_spec (memory : Memory UInt8) (cache : List Entry) :
    Evolves ⟨memory, cache⟩ (evict memory cache) ∧
      (evict memory cache).cache.length ≤ TENANT_KEY_CACHE_MAX_SIZE := by
  induction cache generalizing memory with
  | nil => exact ⟨.refl _, Nat.zero_le _⟩
  | cons oldest rest ih =>
    unfold evict
    split_ifs with hlarge
    · obtain ⟨hevolves, hlength⟩ := ih (memory.zero oldest.dek)
      have hfirst : Evolves ⟨memory, oldest :: rest⟩ ⟨memory.zero oldest.dek, rest⟩ :=
        ⟨keeps_zero _ ⟨oldest, List.mem_cons_self, rfl⟩,
          fun _ hentry => .inl (List.mem_cons_of_mem _ hentry)⟩
      exact ⟨hfirst.trans hevolves, hlength⟩
    · exact ⟨.refl _, Nat.le_of_not_lt hlarge⟩

theorem evolves_dropPrevious (p : Process) (tenantId : String) :
    Evolves p (dropPrevious p tenantId) := by
  unfold dropPrevious
  cases h : p.entry tenantId with
  | none => exact .refl p
  | some previous => exact (evolves_zeroBuffer (mem_of_entry h)).trans (evolves_delete _ _)

theorem setCachedDek_spec (p : Process) (tenantId : String) (dek : ℕ) :
    Evolves p (setCachedDek p tenantId dek) ∧
      (setCachedDek p tenantId dek).cache.length ≤ TENANT_KEY_CACHE_MAX_SIZE := by
  unfold setCachedDek
  have hdropped := evolves_dropPrevious p tenantId
  generalize dropPrevious p tenantId = q at hdropped
  have hpushed : Evolves q ((q.copy (q.memory.bytes dek)).push ⟨tenantId, q.memory.next⟩) := by
    refine ⟨keeps_copy _ _ _, fun entry hentry => ?_⟩
    rcases List.mem_append.1 hentry with hold | hnew
    · exact .inl hold
    · rw [List.mem_singleton.1 hnew]
      exact .inr ⟨Nat.le_refl _, Nat.lt_succ_self _⟩
  obtain ⟨hevicted, hlength⟩ := evict_spec (q.copy (q.memory.bytes dek)).memory
    ((q.copy (q.memory.bytes dek)).push ⟨tenantId, q.memory.next⟩).cache
  exact ⟨(hdropped.trans hpushed).trans hevicted, hlength⟩

theorem getCachedDek_spec {p : Process} {tenantId : String} {entry : Entry}
    (h : p.entry tenantId = some entry) :
    Evolves p (getCachedDek p entry) ∧ (getCachedDek p entry).cache.length ≤ p.cache.length ∧
      ∀ cached ∈ (getCachedDek p entry).cache, cached ∈ p.cache := by
  have hcached : ∀ cached ∈ (getCachedDek p entry).cache, cached ∈ p.cache := by
    intro cached hmem
    rcases List.mem_append.1 hmem with hold | hnew
    · exact (List.mem_filter.1 hold).1
    · rw [List.mem_singleton.1 hnew]
      exact mem_of_entry h
  refine ⟨⟨keeps_copy _ _ _, fun cached hmem => .inl (hcached cached hmem)⟩, ?_, hcached⟩
  have hlt := length_delete_lt h
  change ((p.delete entry.tenantId).cache ++ [entry]).length ≤ p.cache.length
  rw [tenantId_of_entry h, List.length_append, List.length_singleton]
  omega

/-- The buffers of the cache and of the calls are allocated and not shared, and the cache is
bounded. -/
structure Held (s : State) : Prop where
  length_le : s.process.cache.length ≤ TENANT_KEY_CACHE_MAX_SIZE
  cached_lt : ∀ entry ∈ s.process.cache, entry.dek < s.process.memory.next
  keyed_lt : ∀ id call dek, s.calls id = some call → call.phase = .keyed dek →
    dek < s.process.memory.next
  keyed_uncached : ∀ id call dek, s.calls id = some call → call.phase = .keyed dek →
    ¬s.process.holds dek
  keyed_distinct : ∀ id id' call call' dek, s.calls id = some call → call.phase = .keyed dek →
    s.calls id' = some call' → call'.phase = .keyed dek → id = id'

theorem held_boot (records : String → Option String) : Held (boot records) where
  length_le := Nat.zero_le _
  cached_lt _ h := by cases h
  keyed_lt _ _ _ h := by cases h
  keyed_uncached _ _ _ h := by cases h
  keyed_distinct _ _ _ _ _ h := by cases h

/-- What the buffers and the calls are does not depend on the database. -/
theorem Held.congr {s s' : State} (h : Held s) (hprocess : s'.process = s.process)
    (hcalls : s'.calls = s.calls) : Held s' := by
  obtain ⟨store', values', pending', process', calls'⟩ := s'
  dsimp only at hprocess hcalls
  subst hprocess hcalls
  exact ⟨h.length_le, h.cached_lt, h.keyed_lt, h.keyed_uncached, h.keyed_distinct⟩

theorem setCall_eq_some {s : State} {id id' : ℕ} {call : Option Call} {call' : Call}
    (h : (s.setCall id call).calls id' = some call') :
    id' = id ∧ call = some call' ∨ id' ≠ id ∧ s.calls id' = some call' := by
  unfold State.setCall at h
  dsimp only at h
  by_cases hid : id' = id
  · rw [hid, Function.update_self] at h
    exact .inl ⟨hid, h⟩
  · rw [Function.update_of_ne hid] at h
    exact .inr ⟨hid, h⟩

/-- A call that has no key does not matter. -/
theorem Held.setCall {s : State} (h : Held s) (id : ℕ) {call : Option Call}
    (hcall : ∀ c, call = some c → ∀ dek, c.phase ≠ .keyed dek) : Held (s.setCall id call) := by
  have hother : ∀ id' call' dek, (s.setCall id call).calls id' = some call' →
      call'.phase = .keyed dek → s.calls id' = some call' := by
    intro id' call' dek hcall' hphase
    rcases setCall_eq_some hcall' with ⟨_, hnew⟩ | ⟨_, hold⟩
    · exact absurd hphase (hcall call' hnew dek)
    · exact hold
  exact ⟨h.length_le, h.cached_lt,
    fun id' call' dek hc hp => h.keyed_lt id' call' dek (hother id' call' dek hc hp) hp,
    fun id' call' dek hc hp => h.keyed_uncached id' call' dek (hother id' call' dek hc hp) hp,
    fun id' id'' call' call'' dek hc hp hc' hp' => h.keyed_distinct id' id'' call' call'' dek
      (hother id' call' dek hc hp) hp (hother id'' call'' dek hc' hp') hp'⟩

/-- A call is given a new buffer. -/
theorem Held.give {s : State} (h : Held s) {id : ℕ} {call : Call} {process : Process}
    (hprocess : Evolves s.process process)
    (hlength : process.cache.length ≤ TENANT_KEY_CACHE_MAX_SIZE)
    (hlt : s.process.memory.next < process.memory.next)
    (huncached : ¬process.holds s.process.memory.next) :
    Held (s.give id call s.process.memory.next process) := by
  have hcases : ∀ id' call' dek,
      (s.give id call s.process.memory.next process).calls id' = some call' →
      call'.phase = .keyed dek →
      id' = id ∧ dek = s.process.memory.next ∨ dek < s.process.memory.next ∧
        s.calls id' = some call' := by
    intro id' call' dek hcall' hphase
    rcases setCall_eq_some hcall' with ⟨hid, hnew⟩ | ⟨_, hold⟩
    · rw [← Option.some.inj hnew] at hphase
      exact .inl ⟨hid, (Phase.keyed.inj hphase).symm⟩
    · exact .inr ⟨h.keyed_lt id' call' dek hold hphase, hold⟩
  refine ⟨hlength, ?_, ?_, ?_, ?_⟩
  · intro entry hentry
    rcases hprocess.cached entry hentry with hold | hnew
    · exact Nat.lt_trans (h.cached_lt entry hold) hlt
    · exact hnew.2
  · intro id' call' dek hcall' hphase
    rcases hcases id' call' dek hcall' hphase with ⟨_, rfl⟩ | ⟨hdek, _⟩
    · exact hlt
    · exact Nat.lt_trans hdek hlt
  · intro id' call' dek hcall' hphase
    rcases hcases id' call' dek hcall' hphase with ⟨_, rfl⟩ | ⟨hdek, hold⟩
    · exact huncached
    · rintro ⟨entry, hentry, rfl⟩
      rcases hprocess.cached entry hentry with hcached | hnew
      · exact h.keyed_uncached id' call' entry.dek hold hphase ⟨entry, hcached, rfl⟩
      · omega
  · intro id' id'' call' call'' dek hcall' hphase hcall'' hphase'
    rcases hcases id' call' dek hcall' hphase with ⟨hid, hnew⟩ | ⟨hdek, hold⟩
    · rcases hcases id'' call'' dek hcall'' hphase' with ⟨hid', _⟩ | ⟨hdek, _⟩
      · exact hid.trans hid'.symm
      · omega
    · rcases hcases id'' call'' dek hcall'' hphase' with ⟨_, hnew⟩ | ⟨_, hold'⟩
      · omega
      · exact h.keyed_distinct id' id'' call' call'' dek hold hphase hold' hphase'

/-- What a process does to its cache leaves the keys in use as they are. -/
theorem Held.bytes {s : State} (h : Held s) {process : Process}
    (hprocess : Evolves s.process process) {id : ℕ} {call : Call} {dek : ℕ}
    (hcall : s.calls id = some call)
    (hphase : call.phase = .keyed dek) :
    process.memory.bytes dek = s.process.memory.bytes dek :=
  hprocess.keeps.bytes dek (h.keyed_lt id call dek hcall hphase)
    (h.keyed_uncached id call dek hcall hphase)

/-- The key that a call has used is overwritten. -/
theorem Held.release {s : State} (h : Held s) {id : ℕ} {dek : ℕ} :
    Held ({ s with process := s.process.zeroBuffer dek }.setCall id none) := by
  have hzeroed : Held { s with process := s.process.zeroBuffer dek } :=
    ⟨h.length_le, h.cached_lt, h.keyed_lt, h.keyed_uncached, h.keyed_distinct⟩
  exact hzeroed.setCall id fun _ hc => by cases hc

/-- A call has put the key that it has unwrapped into the cache. -/
theorem unwrapped_spec {p : Process} (hcached : ∀ entry ∈ p.cache, entry.dek < p.memory.next)
    (content : Bytes) (tenantId : String) :
    let process := setCachedDek (p.copy content) tenantId p.memory.next
    Evolves p process ∧ p.memory.next < process.memory.next ∧ ¬process.holds p.memory.next ∧
      process.memory.bytes p.memory.next = content := by
  obtain ⟨hevolves, _⟩ := setCachedDek_spec (p.copy content) tenantId p.memory.next
  have hnew : ¬(p.copy content).holds p.memory.next := by
    rintro ⟨entry, hentry, hdek⟩
    have hlt := hcached entry hentry
    omega
  have hlt : p.memory.next < (p.copy content).memory.next := Nat.lt_succ_self _
  refine ⟨(evolves_copy p content).trans hevolves, hlt.trans_le hevolves.keeps.next_le, ?_, ?_⟩
  · rintro ⟨entry, hentry, hdek⟩
    rcases hevolves.cached entry hentry with hold | hlater
    · exact hnew ⟨entry, hold, hdek⟩
    · omega
  · rw [hevolves.keeps.bytes _ hlt hnew]
    exact Memory.bytes_copy_next _ _

section runs

variable {C : Crypto} {masterKey : Bytes}

/-! ## What each step does -/

theorem generateTenantKey_cases (C : Crypto) (masterKey : Bytes) (tenantId : String) (dek : Bytes)
    (iv : Iv) (transaction : Option ℕ) (s : State) :
    generateTenantKey C masterKey tenantId dek iv transaction s = s ∨
      (∃ store, s.store.insert transaction tenantId (wrapDek C masterKey dek iv) = some store ∧
        generateTenantKey C masterKey tenantId dek iv transaction s = { s with store }) ∨
      ∃ i, generateTenantKey C masterKey tenantId dek iv transaction s = abortTransaction i s := by
  unfold generateTenantKey
  split_ifs
  · exact .inl rfl
  · cases hinsert : s.store.insert transaction tenantId (wrapDek C masterKey dek iv) with
    | some store => exact .inr (.inl ⟨store, rfl, rfl⟩)
    | none =>
      cases transaction with
      | some i => exact .inr (.inr ⟨i, rfl⟩)
      | none => exact .inl rfl

theorem startCall_cases (id : ℕ) (tenantId : String) (purpose : Purpose) (transaction : Option ℕ)
    (s : State) :
    startCall id tenantId purpose transaction s = s ∨
      hasBegun s transaction = true ∧
        ((s.process.entry tenantId = none ∧
          startCall id tenantId purpose transaction s =
            s.setCall id (some ⟨tenantId, purpose, transaction, .reading⟩)) ∨
        ∃ entry, s.process.entry tenantId = some entry ∧
          startCall id tenantId purpose transaction s =
            s.give id ⟨tenantId, purpose, transaction, .reading⟩ s.process.memory.next
              (getCachedDek s.process entry)) := by
  unfold startCall
  by_cases hrefused :
      (decide (tenantId = "") || (s.calls id).isSome || !hasBegun s transaction) = true
  · exact .inl (if_pos hrefused)
  · rw [if_neg hrefused]
    simp only [Bool.or_eq_true, not_or, Bool.not_eq_true', Bool.not_eq_false] at hrefused
    refine .inr ⟨hrefused.2, ?_⟩
    cases hentry : s.process.entry tenantId with
    | none => exact .inl ⟨rfl, rfl⟩
    | some entry => exact .inr ⟨entry, rfl, rfl⟩

theorem findOne_cases (id : ℕ) (s : State) :
    findOne id s = s ∨ ∃ call, s.calls id = some call ∧
      findOne id s = s.setCall id
        (some { call with phase := .fetched (s.store.visible call.transaction call.tenantId) }) := by
  unfold findOne
  cases hcall : s.calls id with
  | none => exact .inl rfl
  | some call =>
    cases hphase : call.phase with
    | reading => exact .inr ⟨call, rfl, by dsimp only; rw [hphase]⟩
    | fetched _ => exact .inl (by dsimp only; rw [hphase])
    | keyed _ => exact .inl (by dsimp only; rw [hphase])

theorem unwrap_cases (C : Crypto) (masterKey : Bytes) (id : ℕ) (s : State) :
    unwrap C masterKey id s = s ∨ unwrap C masterKey id s = s.setCall id none ∨
      ∃ call record content, s.calls id = some call ∧ call.phase = .fetched (some record) ∧
        unwrapRecord C masterKey record = .ok content ∧
          unwrap C masterKey id s = s.give id call s.process.memory.next
            (setCachedDek (s.process.copy content) call.tenantId s.process.memory.next) := by
  unfold unwrap
  cases hcall : s.calls id with
  | none => exact .inl rfl
  | some call =>
    cases hphase : call.phase with
    | reading => exact .inl (by dsimp only; rw [hphase])
    | keyed _ => exact .inl (by dsimp only; rw [hphase])
    | fetched record =>
      cases record with
      | none => exact .inr (.inl (by dsimp only; rw [hphase]; rfl))
      | some record =>
        cases hunwrap : unwrapRecord C masterKey record with
        | error e =>
          exact .inr (.inl (by dsimp only; rw [hphase]; dsimp only [Option.map]; rw [hunwrap]))
        | ok content =>
          refine .inr (.inr ⟨call, record, content, rfl, hphase, hunwrap, ?_⟩)
          dsimp only
          rw [hphase]
          dsimp only [Option.map]
          rw [hunwrap]

theorem finish_cases (id : ℕ) (s : State) :
    finish C id s = s ∨ ∃ call dek, s.calls id = some call ∧ call.phase = .keyed dek ∧
      (finish C id s = { s with process := s.process.zeroBuffer dek }.setCall id none ∨
        ∃ value, call.result C (s.process.memory.bytes dek) = some value ∧
          finish C id s =
            ({ s with process := s.process.zeroBuffer dek }.setCall id none).write
              call.transaction value) := by
  unfold finish
  cases hcall : s.calls id with
  | none => exact .inl rfl
  | some call =>
    cases hphase : call.phase with
    | reading => exact .inl (by dsimp only; rw [hphase])
    | fetched _ => exact .inl (by dsimp only; rw [hphase])
    | keyed dek =>
      refine .inr ⟨call, dek, rfl, hphase, ?_⟩
      cases hresult : call.result C (s.process.memory.bytes dek) with
      | none =>
        refine .inl ?_
        dsimp only
        rw [hphase]
        dsimp only
        rw [hresult]
      | some value =>
        refine .inr ⟨value, rfl, ?_⟩
        dsimp only
        rw [hphase]
        dsimp only
        rw [hresult]

theorem write_process (s : State) (transaction : Option ℕ) (value : Value) :
    (s.write transaction value).process = s.process ∧
      (s.write transaction value).calls = s.calls ∧
        (s.write transaction value).store = s.store := by
  unfold State.write
  cases transaction with
  | none => exact ⟨rfl, rfl, rfl⟩
  | some i =>
    dsimp only
    split_ifs <;> exact ⟨rfl, rfl, rfl⟩

/-! ## The buffers in every run -/

theorem intact_of_process {s s' : State} (hprocess : s'.process = s.process) : Intact s s' := by
  intro id call dek _ _ _
  rw [hprocess]

theorem intact_of_evolves {s s' : State} (h : Held s) (hprocess : Evolves s.process s'.process) :
    Intact s s' := by
  intro id call dek hcall hphase _
  exact h.bytes hprocess hcall hphase

theorem Held.generated {s : State} (h : Held s) (tenantId : String) (dek : Bytes) (iv : Iv)
    (transaction : Option ℕ) :
    Held (generateTenantKey C masterKey tenantId dek iv transaction s) ∧
      Intact s (generateTenantKey C masterKey tenantId dek iv transaction s) := by
  rcases generateTenantKey_cases C masterKey tenantId dek iv transaction s
    with hs' | ⟨store, _, hs'⟩ | ⟨i, hs'⟩ <;> rw [hs']
  · exact ⟨h, intact_of_process rfl⟩
  · exact ⟨h.congr rfl rfl, intact_of_process rfl⟩
  · exact ⟨h.congr rfl rfl, intact_of_process rfl⟩

theorem Held.started {s : State} (h : Held s) (id : ℕ) (tenantId : String) (purpose : Purpose)
    (transaction : Option ℕ) :
    Held (startCall id tenantId purpose transaction s) ∧
      Intact s (startCall id tenantId purpose transaction s) := by
  rcases startCall_cases id tenantId purpose transaction s
    with hs' | ⟨_, ⟨_, hs'⟩ | ⟨entry, hentry, hs'⟩⟩ <;> rw [hs']
  · exact ⟨h, intact_of_process rfl⟩
  · refine ⟨h.setCall id fun c hc dek hphase => ?_, intact_of_process rfl⟩
    rw [← Option.some.inj hc] at hphase
    cases hphase
  · obtain ⟨hevolves, hlength, hcached⟩ := getCachedDek_spec hentry
    have huncached : ¬(getCachedDek s.process entry).holds s.process.memory.next := by
      rintro ⟨cached, hmem, hdek⟩
      have hlt := h.cached_lt cached (hcached cached hmem)
      omega
    exact ⟨h.give hevolves (hlength.trans h.length_le) (Nat.lt_succ_self _) huncached,
      intact_of_evolves h hevolves⟩

theorem Held.fetched {s : State} (h : Held s) (id : ℕ) :
    Held (findOne id s) ∧ Intact s (findOne id s) := by
  rcases findOne_cases id s with hs' | ⟨call, _, hs'⟩ <;> rw [hs']
  · exact ⟨h, intact_of_process rfl⟩
  · refine ⟨h.setCall id fun c hc dek hphase => ?_, intact_of_process rfl⟩
    rw [← Option.some.inj hc] at hphase
    cases hphase

theorem Held.unwrapped {s : State} (h : Held s) (id : ℕ) :
    Held (unwrap C masterKey id s) ∧ Intact s (unwrap C masterKey id s) := by
  rcases unwrap_cases C masterKey id s
    with hs' | hs' | ⟨call, record, content, _, _, _, hs'⟩ <;> rw [hs']
  · exact ⟨h, intact_of_process rfl⟩
  · exact ⟨h.setCall id (fun _ hc => by cases hc), intact_of_process rfl⟩
  · obtain ⟨hevolves, hlt, huncached, _⟩ := unwrapped_spec h.cached_lt content call.tenantId
    exact ⟨h.give hevolves (setCachedDek_spec _ _ _).2 hlt huncached,
      intact_of_evolves h hevolves⟩

/-- A call that ends overwrites its own buffer, and not that of another call. -/
theorem Held.finished {s : State} (h : Held s) (id : ℕ) :
    Held (finish C id s) ∧ Intact s (finish C id s) := by
  rcases finish_cases (C := C) id s with hs' | ⟨call, dek, hcall, hphase, hs'⟩
  · rw [hs']
    exact ⟨h, intact_of_process rfl⟩
  · have hreleased :
        Intact s ({ s with process := s.process.zeroBuffer dek }.setCall id none) := by
      intro id' call' dek' hcall' hphase' hstill
      refine Memory.bytes_zero fun heq => ?_
      have hid := h.keyed_distinct id' id call' call dek' hcall' hphase' hcall (heq ▸ hphase)
      rcases setCall_eq_some hstill with ⟨_, hnone⟩ | ⟨hne, _⟩
      · cases hnone
      · exact hne hid
    rcases hs' with hs' | ⟨value, _, hs'⟩ <;> rw [hs']
    · exact ⟨h.release, hreleased⟩
    · obtain ⟨hprocess, hcalls, _⟩ := write_process
        ({ s with process := s.process.zeroBuffer dek }.setCall id none) call.transaction value
      refine ⟨h.release.congr hprocess hcalls, fun id' call' dek' hcall' hphase' hstill => ?_⟩
      rw [hprocess]
      rw [hcalls] at hstill
      exact hreleased id' call' dek' hcall' hphase' hstill

/-- Every step keeps the buffers apart, and the keys in use as they are. -/
theorem Held.step {s : State} (h : Held s) (i : Step) :
    Held (step C masterKey i s) ∧ Intact s (step C masterKey i s) := by
  cases i with
  | startTransaction => exact ⟨h.congr rfl rfl, intact_of_process rfl⟩
  | commitTransaction i => exact ⟨h.congr rfl rfl, intact_of_process rfl⟩
  | abortTransaction i => exact ⟨h.congr rfl rfl, intact_of_process rfl⟩
  | generateTenantKey tenantId dek iv transaction => exact h.generated tenantId dek iv transaction
  | call id tenantId purpose transaction => exact h.started id tenantId purpose transaction
  | findOne id => exact h.fetched id
  | unwrap id => exact h.unwrapped id
  | finish id => exact h.finished id

/-! ## The keys of the values -/

/-- A record unwraps to a key that decrypts a value. -/
def Opens (C : Crypto) (masterKey : Bytes) (record : String) (value : Value) : Prop :=
  ∃ dek, unwrapRecord C masterKey record = .ok dek ∧
    decryptWith C dek value.ciphertext = .ok value.plaintext

/-- What a call has come to know is about the record that is current to it. -/
def Informed (C : Crypto) (masterKey : Bytes) (s : State) (call : Call) : Prop :=
  match call.phase with
  | .reading => True
  | .fetched record =>
    ∀ r, record = some r → s.store.current call.transaction call.tenantId = some r
  | .keyed dek => ∃ r, s.store.current call.transaction call.tenantId = some r ∧
    unwrapRecord C masterKey r = .ok (s.process.memory.bytes dek)

/-- The values, committed or not, are opened by the records that are current to their transactions,
and the calls go by such records. -/
structure Coherent (C : Crypto) (masterKey : Bytes) (s : State) : Prop where
  sound : s.store.Sound
  values : ∀ value ∈ s.values, ∃ record, s.store.stored value.tenantId = some record ∧
    Opens C masterKey record value
  pending : ∀ i value, (i, value) ∈ s.pending → s.store.isOpen i = true ∧
    ∃ record, s.store.current (some i) value.tenantId = some record ∧ Opens C masterKey record value
  begun : ∀ id call, s.calls id = some call → hasBegun s call.transaction = true
  informed : ∀ id call, s.calls id = some call → s.isLive call → Informed C masterKey s call

theorem coherent_boot (records : String → Option String) : Coherent C masterKey (boot records) where
  sound := Store.sound_initial records
  values _ h := by cases h
  pending _ _ h := by cases h
  begun _ _ h := by cases h
  informed _ _ h := by cases h

theorem hasBegun_iff {s : State} {transaction : Option ℕ} :
    hasBegun s transaction = true ↔ ∀ i, transaction = some i → i < s.store.begun := by
  cases transaction <;> simp [hasBegun]

/-- The database goes on, and the calls stay as they are. -/
theorem Coherent.follow {s s' : State} (h : Coherent C masterKey s)
    (hfollows : s.store.Follows s'.store) (hsound : s'.store.Sound)
    (hprocess : s'.process = s.process) (hcalls : s'.calls = s.calls)
    (hvalues : ∀ value ∈ s'.values, value ∈ s.values ∨
      ∃ record, s'.store.stored value.tenantId = some record ∧ Opens C masterKey record value)
    (hpending : ∀ p ∈ s'.pending, p ∈ s.pending ∧ s'.store.isOpen p.1 = true) :
    Coherent C masterKey s' := by
  refine ⟨hsound, fun value hvalue => ?_, fun i value hvalue => ?_, fun id call hcall => ?_,
    fun id call hcall hlive => ?_⟩
  · rcases hvalues value hvalue with hold | hnew
    · obtain ⟨record, hrecord, hopens⟩ := h.values value hold
      refine ⟨record, ?_, hopens⟩
      rw [← Store.current_none] at hrecord ⊢
      exact hfollows.current none (fun i hi => by cases hi) _ _ hrecord
    · exact hnew
  · obtain ⟨hold, hopen⟩ := hpending (i, value) hvalue
    obtain ⟨hopenBefore, record, hrecord, hopens⟩ := h.pending i value hold
    refine ⟨hopen, record, hfollows.current (some i) (fun j hj => ?_) _ _ hrecord, hopens⟩
    cases hj
    exact ⟨h.sound.open_begun i hopenBefore, hopen⟩
  · rw [hcalls] at hcall
    exact hasBegun_iff.2 fun i hi =>
      (hasBegun_iff.1 (h.begun id call hcall) i hi).trans_le hfollows.begun_le
  · rw [hcalls] at hcall
    have hparty : ∀ i, call.transaction = some i →
        i < s.store.begun ∧ s'.store.isOpen i = true :=
      fun i hi => ⟨hasBegun_iff.1 (h.begun id call hcall) i hi, hlive i hi⟩
    have hinformed := h.informed id call hcall fun i hi =>
      hfollows.open_before i (hparty i hi).1 (hparty i hi).2
    unfold Informed at hinformed ⊢
    cases hphase : call.phase with
    | reading => trivial
    | fetched record =>
      rw [hphase] at hinformed
      exact fun r hr => hfollows.current _ hparty _ _ (hinformed r hr)
    | keyed dek =>
      rw [hphase] at hinformed
      obtain ⟨r, hcurrent, hunwrap⟩ := hinformed
      rw [hprocess]
      exact ⟨r, hfollows.current _ hparty _ _ hcurrent, hunwrap⟩

/-- A call goes on, and the keys of the other calls stay as they are. -/
theorem Coherent.setCall {s : State} (h : Coherent C masterKey s) {id : ℕ} {call : Option Call}
    {process : Process}
    (hbytes : ∀ id' call' dek, id' ≠ id → s.calls id' = some call' → call'.phase = .keyed dek →
      process.memory.bytes dek = s.process.memory.bytes dek)
    (hcall : ∀ c, call = some c → hasBegun s c.transaction = true ∧
      (s.isLive c → Informed C masterKey { s with process } c)) :
    Coherent C masterKey ({ s with process }.setCall id call) := by
  refine ⟨h.sound, h.values, h.pending, fun id' call' hcall' => ?_,
    fun id' call' hcall' hlive => ?_⟩
  · rcases setCall_eq_some hcall' with ⟨_, hnew⟩ | ⟨_, hold⟩
    · exact (hcall call' hnew).1
    · exact h.begun id' call' hold
  · rcases setCall_eq_some hcall' with ⟨_, hnew⟩ | ⟨hne, hold⟩
    · exact (hcall call' hnew).2 hlive
    · have hinformed := h.informed id' call' hold hlive
      unfold Informed at hinformed ⊢
      cases hphase : call'.phase with
      | reading => trivial
      | fetched record =>
        rw [hphase] at hinformed
        exact hinformed
      | keyed dek =>
        rw [hphase] at hinformed
        obtain ⟨r, hcurrent, hunwrap⟩ := hinformed
        exact ⟨r, hcurrent, hunwrap.trans (congrArg _ (hbytes id' call' dek hne hold hphase).symm)⟩

/-- A value that a record opens is written. -/
theorem Coherent.write {s : State} (h : Coherent C masterKey s) {transaction : Option ℕ}
    {value : Value}
    (hvalue : (∀ i, transaction = some i → s.store.isOpen i = true) →
      ∃ record, s.store.current transaction value.tenantId = some record ∧
        Opens C masterKey record value) :
    Coherent C masterKey (s.write transaction value) := by
  unfold State.write
  cases transaction with
  | none =>
    refine ⟨h.sound, fun value' hmem => ?_, h.pending, h.begun, h.informed⟩
    rcases List.mem_append.1 hmem with hold | hnew
    · exact h.values value' hold
    · rw [List.mem_singleton.1 hnew]
      obtain ⟨record, hcurrent, hopens⟩ := hvalue fun i hi => by cases hi
      exact ⟨record, Store.current_none.symm.trans hcurrent, hopens⟩
  | some i =>
    dsimp only
    split_ifs with hopen
    · refine ⟨h.sound, h.values, fun j value' hmem => ?_, h.begun, h.informed⟩
      rcases List.mem_append.1 hmem with hold | hnew
      · exact h.pending j value' hold
      · cases List.mem_singleton.1 hnew
        refine ⟨hopen, hvalue fun j hj => ?_⟩
        cases hj
        exact hopen
    · exact h

theorem Coherent.abort {s : State} (h : Coherent C masterKey s) (i : ℕ) :
    Coherent C masterKey (abortTransaction i s) := by
  refine h.follow (Store.follows_abort _ i) (h.sound.abort i) rfl rfl (fun _ => .inl) ?_
  rintro ⟨j, value⟩ hmem
  obtain ⟨hold, hne⟩ := List.mem_filter.1 hmem
  exact ⟨hold, (Store.isOpen_ended rfl j).2 ⟨by simpa using hne, (h.pending j value hold).1⟩⟩

/-- A commit stores the records that open the values of its transaction. -/
theorem Coherent.commit {s : State} (h : Coherent C masterKey s) (i : ℕ) :
    Coherent C masterKey (commitTransaction i s) := by
  refine h.follow (h.sound.follows_commit i) (h.sound.commit i) rfl rfl ?_ ?_
  · intro value hmem
    refine (List.mem_append.1 hmem).imp_right fun hnew => ?_
    obtain ⟨⟨j, value'⟩, hpending, rfl⟩ := List.mem_map.1 hnew
    obtain ⟨hold, hj⟩ := List.mem_filter.1 hpending
    obtain rfl : j = i := by simpa using hj
    exact (h.pending j value' hold).2
  · rintro ⟨j, value⟩ hmem
    obtain ⟨hold, hne⟩ := List.mem_filter.1 hmem
    exact ⟨hold, (Store.isOpen_ended rfl j).2 ⟨by simpa using hne, (h.pending j value hold).1⟩⟩

/-- What a call encrypts is opened by the record of its key. -/
theorem opens_of_result {call : Call} {record : String} {dek : Bytes} {value : Value}
    (hunwrap : unwrapRecord C masterKey record = .ok dek) (h : call.result C dek = some value) :
    value.tenantId = call.tenantId ∧ Opens C masterKey record value := by
  unfold Call.result at h
  cases hpurpose : call.purpose with
  | encrypt iv plaintext =>
    rw [hpurpose] at h
    cases h
    exact ⟨rfl, dek, hunwrap, decryptWith_encryptWith dek iv plaintext⟩
  | decrypt ciphertext =>
    rw [hpurpose] at h
    cases h

theorem Coherent.begin {s : State} (h : Coherent C masterKey s) :
    Coherent C masterKey { s with store := s.store.begin } := by
  refine h.follow (Store.follows_begin _) h.sound.begin rfl rfl (fun _ => .inl) ?_
  rintro ⟨j, value⟩ hmem
  exact ⟨hmem, (Store.isOpen_begin j).2 (.inr (h.pending j value hmem).1)⟩

theorem Coherent.generated {s : State} (h : Coherent C masterKey s) (tenantId : String)
    (dek : Bytes) (iv : Iv) (transaction : Option ℕ) :
    Coherent C masterKey (generateTenantKey C masterKey tenantId dek iv transaction s) := by
  rcases generateTenantKey_cases C masterKey tenantId dek iv transaction s
    with hs' | ⟨store, hinsert, hs'⟩ | ⟨i, hs'⟩ <;> rw [hs']
  · exact h
  · refine h.follow (Store.follows_insert hinsert) (h.sound.insert hinsert) rfl rfl
      (fun _ => .inl) ?_
    rintro ⟨j, value⟩ hmem
    refine ⟨hmem, ?_⟩
    rw [Store.isOpen_insert hinsert]
    exact (h.pending j value hmem).1
  · exact h.abort i

/-- A call that finds a key in the cache is informed when the key is that of a current record. -/
theorem Coherent.started {s : State} (h : Coherent C masterKey s) (hheld : Held s) {id : ℕ}
    {tenantId : String} {purpose : Purpose} {transaction : Option ℕ}
    (hfinds : FindsCurrent C masterKey (.call id tenantId purpose transaction) s) :
    Coherent C masterKey (startCall id tenantId purpose transaction s) := by
  rcases startCall_cases id tenantId purpose transaction s
    with hs' | ⟨hbegun, ⟨_, hs'⟩ | ⟨entry, hentry, hs'⟩⟩ <;> rw [hs']
  · exact h
  · refine h.setCall (fun _ _ _ _ _ _ => rfl) fun c hc => ?_
    rw [← Option.some.inj hc]
    exact ⟨hbegun, fun _ => trivial⟩
  · obtain ⟨hevolves, _, _⟩ := getCachedDek_spec hentry
    refine h.setCall (fun _ _ _ _ hcall hphase => hheld.bytes hevolves hcall hphase) fun c hc => ?_
    rw [← Option.some.inj hc]
    refine ⟨hbegun, fun _ => ?_⟩
    obtain ⟨record, hcurrent, hunwrap⟩ := hfinds entry hentry
    exact ⟨record, hcurrent, hunwrap.trans (congrArg _ (Memory.bytes_copy_next _ _).symm)⟩

theorem Coherent.fetched {s : State} (h : Coherent C masterKey s) (id : ℕ) :
    Coherent C masterKey (findOne id s) := by
  rcases findOne_cases id s with hs' | ⟨call, hcall, hs'⟩ <;> rw [hs']
  · exact h
  · refine h.setCall (fun _ _ _ _ _ _ => rfl) fun c hc => ?_
    rw [← Option.some.inj hc]
    exact ⟨h.begun id call hcall, fun _ r hr => h.sound.current_of_visible hr⟩

/-- What a call has fetched is unwrapped: the key is that of the current record. -/
theorem Coherent.unwrapped {s : State} (h : Coherent C masterKey s) (hheld : Held s) (id : ℕ) :
    Coherent C masterKey (unwrap C masterKey id s) := by
  rcases unwrap_cases C masterKey id s
    with hs' | hs' | ⟨call, record, content, hcall, hphase, hunwrap, hs'⟩ <;> rw [hs']
  · exact h
  · exact h.setCall (fun _ _ _ _ _ _ => rfl) fun _ hc => by cases hc
  · obtain ⟨hevolves, _, _, hcontent⟩ := unwrapped_spec hheld.cached_lt content call.tenantId
    refine h.setCall (fun _ _ _ _ hc hp => hheld.bytes hevolves hc hp) fun c hc => ?_
    rw [← Option.some.inj hc]
    refine ⟨h.begun id call hcall, fun hlive => ?_⟩
    have hinformed := h.informed id call hcall hlive
    unfold Informed at hinformed
    rw [hphase] at hinformed
    exact ⟨record, hinformed record rfl, hunwrap.trans (congrArg _ hcontent.symm)⟩

/-- What a call writes in the end is opened by the record that it is informed of. -/
theorem Coherent.finished {s : State} (h : Coherent C masterKey s) (hheld : Held s) (id : ℕ) :
    Coherent C masterKey (finish C id s) := by
  rcases finish_cases (C := C) id s with hs' | ⟨call, dek, hcall, hphase, hs'⟩
  · rw [hs']
    exact h
  · have hreleased : Coherent C masterKey
        ({ s with process := s.process.zeroBuffer dek }.setCall id none) := by
      refine h.setCall (fun id' call' dek' hne hcall' hphase' => ?_) fun _ hc => by cases hc
      refine Memory.bytes_zero fun heq => hne ?_
      exact hheld.keyed_distinct id' id call' call dek' hcall' hphase' hcall (heq ▸ hphase)
    rcases hs' with hs' | ⟨value, hresult, hs'⟩ <;> rw [hs']
    · exact hreleased
    · refine hreleased.write fun hlive => ?_
      have hinformed := h.informed id call hcall hlive
      unfold Informed at hinformed
      rw [hphase] at hinformed
      obtain ⟨record, hcurrent, hunwrap⟩ := hinformed
      obtain ⟨htenant, hopens⟩ := opens_of_result hunwrap hresult
      rw [htenant]
      exact ⟨record, hcurrent, hopens⟩

/-- A step keeps the values and the calls coherent, when a call that is answered from the cache gets
the key of a record that is current to it. -/
theorem Coherent.step {s : State} (h : Coherent C masterKey s) (hheld : Held s) {i : Step}
    (hfinds : FindsCurrent C masterKey i s) : Coherent C masterKey (step C masterKey i s) := by
  cases i with
  | startTransaction => exact h.begin
  | commitTransaction i => exact h.commit i
  | abortTransaction i => exact h.abort i
  | generateTenantKey tenantId dek iv transaction => exact h.generated tenantId dek iv transaction
  | call id tenantId purpose transaction => exact h.started hheld hfinds
  | findOne id => exact h.fetched id
  | unwrap id => exact h.unwrapped hheld id
  | finish id => exact h.finished hheld id

/-- Values that are opened by the stored records can be decrypted. -/
theorem Coherent.decryptable {s : State} (h : Coherent C masterKey s) :
    Decryptable C masterKey s where
  fresh value hvalue := by
    obtain ⟨record, hrecord, dek, hunwrap, hdecrypt⟩ := h.values value hvalue
    unfold freshDecrypt unwrapDek
    dsimp only
    rw [hrecord]
    dsimp only
    rw [hunwrap, ok_bind, hdecrypt]
  inProgress id call dek hcall hlive hphase value hvalue htenant _ := by
    obtain ⟨record, hrecord, dek', hunwrap, hdecrypt⟩ := h.values value hvalue
    have hinformed := h.informed id call hcall hlive
    unfold Informed at hinformed
    rw [hphase] at hinformed
    obtain ⟨record', hcurrent, hunwrap'⟩ := hinformed
    -- the record of the call is the stored one
    rw [htenant, h.sound.current_of_stored _ hrecord] at hcurrent
    cases hcurrent
    rw [hunwrap'] at hunwrap
    rw [Except.ok.inj hunwrap]
    exact hdecrypt

end runs

/-- The bound of the cache and the keys in use are safe in every run. The values of a run can be
decrypted in each of its states, when every call that is answered from the cache gets the key of the
record that is stored, or that its own transaction has inserted. -/
theorem keys_cached_with_their_records (C : Crypto) (masterKey : Bytes)
    (records : String → Option String) (steps : List Step) :
    (∀ s ∈ states (step C masterKey) steps (boot records),
      s.process.cache.length ≤ TENANT_KEY_CACHE_MAX_SIZE ∧
        ∀ i, Intact s (step C masterKey i s)) ∧
      (Admits (step C masterKey) (FindsCurrent C masterKey) steps (boot records) →
        ∀ s ∈ states (step C masterKey) steps (boot records), Decryptable C masterKey s) := by
  constructor
  · intro s hs
    have hheld := states_keep (fun i s (h : Held s) => (h.step i).1) steps (boot records)
      (held_boot records) s hs
    exact ⟨hheld.length_le, fun i => (hheld.step i).2⟩
  · intro hadmits s hs
    have hboth := states_invariant (fun i s (h : Held s ∧ Coherent C masterKey s) hfinds =>
      ⟨(h.1.step i).1, h.2.step h.1 hfinds⟩) steps (boot records)
      ⟨held_boot records, coherent_boot records⟩ hadmits s hs
    exact hboth.2.decryptable

/-! ## A key that is aborted -/

/-- A tag that tells keys apart by their first sixteen bytes. -/
def keyTag (key : Bytes) : Bytes := (key ++ List.replicate 16 0).take 16

theorem length_keyTag (key : Bytes) : (keyTag key).length = 16 := by
  unfold keyTag
  rw [List.length_take, List.length_append, List.length_replicate]
  omega

/-- A cipher that opens what was sealed under the same key only. -/
def taggedCipher : Crypto where
  gcmSeal key _ plaintext := (plaintext, keyTag key)
  gcmOpen key _ tag ciphertext := if tag = keyTag key then some ciphertext else none
  gcmOpen_gcmSeal _ _ _ := if_pos rfl
  ciphertext_length _ _ _ := rfl
  authTag_length key _ _ := length_keyTag key
  replaceInvalid _ := ""

/-- The master key and a tenant's keys, each made of one byte. -/
def repeated (byte : UInt8) : Bytes := List.replicate 32 byte

/-- A text is encrypted in a transaction that has generated its tenant's key, and aborts. A new key
is generated, and another text is encrypted. -/
def abortedKey : List Step :=
  [.startTransaction,
    .generateTenantKey "FIRM001" (repeated 1) zeroIv (some 0),
    .call 0 "FIRM001" (.encrypt zeroIv "notice") (some 0), .findOne 0, .unwrap 0, .finish 0,
    .abortTransaction 0,
    .generateTenantKey "FIRM001" (repeated 2) zeroIv none,
    .call 1 "FIRM001" (.encrypt zeroIv "return") none, .finish 1]

/-- The text that was encrypted last, under the key of the aborted record. -/
def lostValue : Value where
  tenantId := "FIRM001"
  plaintext := "return"
  ciphertext := encryptWith taggedCipher (repeated 1) zeroIv "return"

/-- The state after the run. -/
def afterAbort : State := run (step taggedCipher (repeated 0)) abortedKey (boot fun _ => none)

/-- The text is committed, and no process can decrypt it with the stored record. -/
theorem decryptable_fails :
    afterAbort.values = [lostValue] ∧
      (freshDecrypt taggedCipher (repeated 0) afterAbort lostValue).toOption = none ∧
      ¬∀ s ∈ states (step taggedCipher (repeated 0)) abortedKey (boot fun _ => none),
        Decryptable taggedCipher (repeated 0) s := by
  have hvalues : afterAbort.values = [lostValue] := by decide
  have hfails : (freshDecrypt taggedCipher (repeated 0) afterAbort lostValue).toOption = none := by
    decide
  refine ⟨hvalues, hfails, fun h => ?_⟩
  have hdecryptable := h afterAbort (run_mem_states _ _ _)
  have hfresh := hdecryptable.fresh lostValue (hvalues ▸ List.mem_singleton_self _)
  rw [hfresh] at hfails
  cases hfails

/-- The transaction commits instead, and another call is answered from the cache. -/
def committedKey : List Step :=
  [.startTransaction,
    .generateTenantKey "FIRM001" (repeated 1) zeroIv (some 0),
    .call 0 "FIRM001" (.encrypt zeroIv "notice") (some 0), .findOne 0, .unwrap 0, .finish 0,
    .commitTransaction 0,
    .call 1 "FIRM001" (.encrypt zeroIv "return") none, .finish 1]

/-- Both texts can be decrypted. -/
theorem keys_cached_committed :
    (run (step taggedCipher (repeated 0)) committedKey (boot fun _ => none)).values.length = 2 ∧
      ∀ s ∈ states (step taggedCipher (repeated 0)) committedKey (boot fun _ => none),
        Decryptable taggedCipher (repeated 0) s := by
  refine ⟨by decide, (keys_cached_with_their_records taggedCipher (repeated 0) _ committedKey).2 ?_⟩
  refine ⟨trivial, trivial, ?_, trivial, trivial, trivial, trivial, ?_, trivial, trivial⟩
  · intro entry hentry
    cases hentry
  · intro entry hentry
    cases hentry
    exact ⟨_, rfl, rfl⟩

end Docketra.KeyCache
