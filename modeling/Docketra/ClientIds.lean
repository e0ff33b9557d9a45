import Docketra.Lib.Numerals
import Docketra.Lib.Runs
import Docketra.Text

/-!
# Client ids

`services/clientIdGenerator.js` makes the next id of a firm's client from the last one that a query
finds. The query sorts texts and leaves out what is soft-deleted, while the unique index counts every
client. So the ids that are made are new and well formed exactly in the runs in which, at each
creation, the client that was created last is not deleted and there are fewer than 999999 of them
(`client_ids_fresh_iff`).
-/

namespace Docketra.ClientIds

open Numerals Runs

/-- A client of a firm. -/
structure Client where
  clientId : String
  deleted : Bool
  deriving DecidableEq, Repr

/-- The clients of a firm, the one that was created last first. -/
abbrev Clients := List Client

/-- `/^C\d+$/`. -/
def isSequential (clientId : String) : Bool :=
  match clientId.toList with
  | 'C' :: digits => !digits.isEmpty && digits.all Char.isDigit
  | _ => false

/-- The first id of a descending sort of texts. -/
def latest : List String → Option String
  | [] => none
  | clientId :: others =>
    match latest others with
    | none => some clientId
    | some last => if last.toList < clientId.toList then some clientId else some last

/-- The id of `lastClient`. The soft-delete plugin leaves out what is deleted. -/
def lastClientId (clients : Clients) : Option String :=
  latest ((clients.filter fun c => !c.deleted && isSequential c.clientId).map (·.clientId))

/-- `C${String(n).padStart(6, '0')}`. -/
def clientIdOf (n : ℕ) : String := String.ofList ('C' :: padded 6 n)

/-- `generateNextClientId`. -/
def generateNextClientId (clients : Clients) : String :=
  match lastClientId clients with
  | none => "C000001"
  | some clientId =>
    let lastNumber := Nat.ofDigitChars 10 (clientId.toList.drop 1) 0
    clientIdOf (lastNumber + 1)

/-- `validateClientIdFormat`, which tests `/^C\d{6}$/`. -/
def validateClientIdFormat (clientId : String) : Bool :=
  match clientId.toList with
  | 'C' :: digits => digits.length == 6 && digits.all Char.isDigit
  | _ => false

/-- What is done to the clients of a firm. -/
inductive Operation where
  | create
  | softDelete (clientId : String)
  | restoreDocument (clientId : String)

/-- The unique index refuses an id that a client has, deleted or not. -/
def insert (clientId : String) (clients : Clients) : Clients :=
  if clients.any (·.clientId = clientId) then clients else ⟨clientId, false⟩ :: clients

def setDeleted (deleted : Bool) (clientId : String) (clients : Clients) : Clients :=
  clients.map fun c => if c.clientId = clientId then { c with deleted := deleted } else c

/-- One operation. -/
def step : Operation → Clients → Clients
  | .create, clients => insert (generateNextClientId clients) clients
  | .softDelete clientId, clients => setDeleted true clientId clients
  | .restoreDocument clientId, clients => setDeleted false clientId clients

/-! ## What is asked -/

/-- The id that is made is new and well formed, and the creation is not stopped. -/
structure CreatesFresh (clients : Clients) : Prop where
  fresh : ∀ c ∈ clients, c.clientId ≠ generateNextClientId clients
  valid : validateClientIdFormat (generateNextClientId clients) = true
  inserted : step .create clients = ⟨generateNextClientId clients, false⟩ :: clients

/-- Every creation of a run makes a new and well-formed id. -/
def AlwaysFresh (operations : List Operation) : Prop :=
  Admits step (fun operation clients => operation = .create → CreatesFresh clients) operations []

/-- The client that was created last is not deleted, and there are ids of the width left. -/
structure Extensible (clients : Clients) : Prop where
  last_visible : ∀ c ∈ clients.head?, c.deleted = false
  below : clients.length < 999999

/-! ## Ids of numbers -/

theorem toList_clientIdOf (n : ℕ) : (clientIdOf n).toList = 'C' :: padded 6 n :=
  String.toList_ofList

theorem clientIdOf_injective {m n : ℕ} (h : clientIdOf m = clientIdOf n) : m = n := by
  have hlists := congrArg String.toList h
  rw [toList_clientIdOf, toList_clientIdOf] at hlists
  exact padded_injective (List.cons.inj hlists).2

theorem isSequential_clientIdOf (n : ℕ) : isSequential (clientIdOf n) = true := by
  have hlength := le_length_padded 6 n
  have hne : padded 6 n ≠ [] := by
    intro hnil
    rw [hnil] at hlength
    exact absurd hlength (by decide)
  unfold isSequential
  rw [toList_clientIdOf]
  simp only [Bool.and_eq_true, Bool.not_eq_true', List.isEmpty_eq_false_iff, List.all_eq_true]
  exact ⟨hne, fun c hc => isDigit_of_mem_padded hc⟩

/-- The format has room for six digits. -/
theorem validateClientIdFormat_clientIdOf (n : ℕ) :
    validateClientIdFormat (clientIdOf n) = true ↔ n < 1000000 := by
  unfold validateClientIdFormat
  rw [toList_clientIdOf]
  simp only [Bool.and_eq_true, beq_iff_eq, List.all_eq_true]
  rw [length_padded_eq_iff (by decide)]
  exact and_iff_left fun c hc => isDigit_of_mem_padded hc

theorem clientIdOf_one : clientIdOf 1 = "C000001" := by decide

/-- The number is read from the id, and the next id made. -/
theorem next_clientIdOf (n : ℕ) :
    clientIdOf (Nat.ofDigitChars 10 ((clientIdOf n).toList.drop 1) 0 + 1) = clientIdOf (n + 1) := by
  rw [toList_clientIdOf, List.drop_one, List.tail_cons, value_padded]

/-! ## The last id -/

/-- The last of some texts is one of them, and none of them comes after it. -/
theorem latest_spec : ∀ {ids : List String} {last : String}, latest ids = some last →
    last ∈ ids ∧ ∀ other ∈ ids, ¬last.toList < other.toList
  | [], _, h => by cases h
  | clientId :: others, last, h => by
    unfold latest at h
    cases hothers : latest others with
    | none =>
      rw [hothers] at h
      obtain rfl := Option.some.inj h
      have hnil : others = [] := by
        cases others with
        | nil => rfl
        | cons other rest =>
          unfold latest at hothers
          split at hothers
          · cases hothers
          · split_ifs at hothers
      rw [hnil]
      simp
    | some last' =>
      obtain ⟨hmem, hlast⟩ := latest_spec hothers
      rw [hothers] at h
      dsimp only at h
      split_ifs at h with hlt
      · obtain rfl := Option.some.inj h
        refine ⟨List.mem_cons_self, fun other hother => ?_⟩
        rcases List.mem_cons.mp hother with rfl | hother
        · exact List.lt_irrefl _
        · exact fun hafter => hlast other hother (List.lt_trans hlt hafter)
      · obtain rfl := Option.some.inj h
        refine ⟨List.mem_cons_of_mem _ hmem, fun other hother => ?_⟩
        rcases List.mem_cons.mp hother with rfl | hother
        · exact hlt
        · exact hlast other hother

theorem latest_isSome {ids : List String} (h : ids ≠ []) : ∃ last, latest ids = some last := by
  cases ids with
  | nil => exact absurd rfl h
  | cons clientId others =>
    unfold latest
    split
    · exact ⟨_, rfl⟩
    · split_ifs
      · exact ⟨_, rfl⟩
      · exact ⟨_, rfl⟩

/-! ## Numbered clients -/

/-- The first ids of a firm, the last one first. -/
def numbered : ℕ → List String
  | 0 => []
  | n + 1 => clientIdOf (n + 1) :: numbered n

theorem mem_numbered {n : ℕ} {clientId : String} :
    clientId ∈ numbered n ↔ ∃ k < n, clientId = clientIdOf (k + 1) := by
  induction n with
  | zero => simp [numbered]
  | succ n ih =>
    rw [numbered, List.mem_cons, ih]
    constructor
    · rintro (rfl | ⟨k, hk, rfl⟩)
      · exact ⟨n, by omega, rfl⟩
      · exact ⟨k, by omega, rfl⟩
    · rintro ⟨k, hk, rfl⟩
      by_cases hkn : k = n
      · exact .inl (by rw [hkn])
      · exact .inr ⟨k, by omega, rfl⟩

/-- The clients have the first ids of the firm. -/
structure Numbered (clients : Clients) : Prop where
  ids : clients.map (·.clientId) = numbered clients.length
  le : clients.length ≤ 999999

/-- The id of a client that is not deleted is the last when it is the first of the list, and some
other one of the list else. -/
theorem lastClientId_spec {clients : Clients} (h : Numbered clients) {last : String}
    (hlast : lastClientId clients = some last) :
    ∃ k < clients.length, last = clientIdOf (k + 1) ∧
      (∀ c ∈ clients.head?, k + 1 = clients.length ↔ c.deleted = false) := by
  obtain ⟨hmem, hmax⟩ := latest_spec hlast
  obtain ⟨c, hc, rfl⟩ := List.mem_map.mp hmem
  obtain ⟨hclient, hfound⟩ := List.mem_filter.mp hc
  rw [Bool.and_eq_true, Bool.not_eq_true'] at hfound
  have hnumbered : c.clientId ∈ numbered clients.length := by
    rw [← h.ids]
    exact List.mem_map_of_mem hclient
  obtain ⟨k, hk, hid⟩ := mem_numbered.mp hnumbered
  refine ⟨k, hk, hid, fun first hfirst => ?_⟩
  cases clients with
  | nil => cases hfirst
  | cons first' rest =>
    obtain rfl := Option.some.inj hfirst
    have hids := h.ids
    have hle := h.le
    rw [List.map_cons, List.length_cons, numbered, List.cons_eq_cons] at hids
    rw [List.length_cons] at hk hle
    rw [List.length_cons]
    constructor
    · intro hlength
      -- the ids are different, so that the client found is the first one
      rcases List.mem_cons.mp hclient with rfl | hrest
      · exact hfound.1
      · have hmem' : c.clientId ∈ numbered rest.length := by
          rw [← hids.2]
          exact List.mem_map_of_mem hrest
        obtain ⟨j, hj, hid'⟩ := mem_numbered.mp hmem'
        have hjk := clientIdOf_injective (hid.symm.trans hid')
        omega
    · intro hvisible
      have hfirstFound : first'.clientId ∈
          ((first' :: rest).filter fun c => !c.deleted && isSequential c.clientId).map
            (·.clientId) := by
        refine List.mem_map_of_mem (List.mem_filter.mpr ⟨List.mem_cons_self, ?_⟩)
        rw [hvisible, hids.1, isSequential_clientIdOf]
        rfl
      have hnotAfter := hmax _ hfirstFound
      rw [hid, hids.1, toList_clientIdOf, toList_clientIdOf, List.cons_lt_cons_iff,
        padded_lt_iff (by decide) (by omega) (by omega)] at hnotAfter
      simp only [true_and, not_or] at hnotAfter
      omega

/-- No client is found only when the first one of the list is deleted, if there is one. -/
theorem deleted_of_lastClientId {clients : Clients} (h : Numbered clients)
    (hnone : lastClientId clients = none) : ∀ c ∈ clients.head?, c.deleted = true := by
  intro c hc
  cases clients with
  | nil => cases hc
  | cons first rest =>
    obtain rfl := Option.some.inj hc
    by_contra hvisible
    rw [Bool.not_eq_true] at hvisible
    have hids := h.ids
    rw [List.map_cons, List.length_cons, numbered, List.cons_eq_cons] at hids
    have hne : ((first :: rest).filter fun c => !c.deleted && isSequential c.clientId).map
        (·.clientId) ≠ [] := by
      rw [List.filter_cons_of_pos (by rw [hvisible, hids.1, isSequential_clientIdOf]; rfl)]
      exact List.cons_ne_nil _ _
    obtain ⟨last, hlast⟩ := latest_isSome hne
    rw [lastClientId, hlast] at hnone
    cases hnone

/-- In a firm whose clients have its first ids, the next id is the next one exactly when the client
created last is not deleted; else a client has it. -/
theorem generateNextClientId_spec {clients : Clients} (h : Numbered clients) :
    ((∀ c ∈ clients.head?, c.deleted = false) →
        generateNextClientId clients = clientIdOf (clients.length + 1)) ∧
      (¬(∀ c ∈ clients.head?, c.deleted = false) →
        generateNextClientId clients ∈ numbered clients.length) := by
  unfold generateNextClientId
  cases hlast : lastClientId clients with
  | none =>
    have hdeleted := deleted_of_lastClientId h hlast
    cases clients with
    | nil => exact ⟨fun _ => clientIdOf_one.symm, fun hnot => absurd (by simp) hnot⟩
    | cons first rest =>
      have hfirst := hdeleted first rfl
      refine ⟨fun hvisible => ?_, fun _ => ?_⟩
      · rw [hvisible first rfl] at hfirst
        cases hfirst
      · exact mem_numbered.mpr ⟨0, by simp, clientIdOf_one.symm⟩
  | some last =>
    obtain ⟨k, hk, rfl, hfirst⟩ := lastClientId_spec h hlast
    dsimp only
    rw [next_clientIdOf]
    cases clients with
    | nil => cases hk
    | cons first rest =>
      have hiff := hfirst first rfl
      constructor
      · intro hvisible
        rw [hiff.mpr (hvisible first rfl)]
      · intro hnot
        have hdeleted : ¬first.deleted = false := by
          intro hvisible
          refine hnot fun c hc => ?_
          obtain rfl := Option.some.inj hc
          exact hvisible
        have hne : k + 1 ≠ (first :: rest).length := fun heq => hdeleted (hiff.mp heq)
        exact mem_numbered.mpr ⟨k + 1, by omega, rfl⟩

/-- The next id is good exactly when the clients can be extended. -/
theorem createsFresh_iff {clients : Clients} (h : Numbered clients) :
    CreatesFresh clients ↔ Extensible clients := by
  obtain ⟨hnext, htaken⟩ := generateNextClientId_spec h
  have hmem {clientId : String} : clientId ∈ numbered clients.length ↔
      ∃ c ∈ clients, c.clientId = clientId := by
    rw [← h.ids, List.mem_map]
  constructor
  · intro hfresh
    have hvisible : ∀ c ∈ clients.head?, c.deleted = false := by
      by_contra hnot
      obtain ⟨c, hc, heq⟩ := hmem.mp (htaken hnot)
      exact hfresh.fresh c hc heq
    refine ⟨hvisible, ?_⟩
    have hvalid := hfresh.valid
    rw [hnext hvisible, validateClientIdFormat_clientIdOf] at hvalid
    omega
  · intro hextensible
    have heq := hnext hextensible.last_visible
    have hfresh : ∀ c ∈ clients, c.clientId ≠ generateNextClientId clients := by
      intro c hc hsame
      obtain ⟨k, hk, hid⟩ := mem_numbered.mp (hmem.mpr ⟨c, hc, hsame⟩)
      have hlength := clientIdOf_injective (heq.symm.trans hid)
      omega
    refine ⟨hfresh, ?_, ?_⟩
    · rw [heq, validateClientIdFormat_clientIdOf]
      have hbelow := hextensible.below
      omega
    · unfold step insert
      refine if_neg fun hany => ?_
      obtain ⟨c, hc, hsame⟩ := List.any_eq_true.mp hany
      exact hfresh c hc (of_decide_eq_true hsame)

theorem numbered_setDeleted {clients : Clients} (h : Numbered clients) (deleted : Bool)
    (clientId : String) : Numbered (setDeleted deleted clientId clients) := by
  have hids : (setDeleted deleted clientId clients).map (·.clientId) =
      clients.map (·.clientId) := by
    unfold setDeleted
    rw [List.map_map]
    refine List.map_congr_left fun c _ => ?_
    dsimp only [Function.comp_apply]
    split_ifs <;> rfl
  have hlength : (setDeleted deleted clientId clients).length = clients.length := List.length_map _
  constructor
  · rw [hids, hlength, h.ids]
  · rw [hlength]
    exact h.le

/-- A creation that is not stopped gives the next id. -/
theorem Numbered.step {clients : Clients} (h : Numbered clients) (operation : Operation)
    (hfresh : operation = .create → CreatesFresh clients) :
    Numbered (step operation clients) := by
  cases operation with
  | create =>
    have hcreates := hfresh rfl
    have hextensible := (createsFresh_iff h).mp hcreates
    rw [hcreates.inserted]
    constructor
    · rw [List.map_cons, List.length_cons, numbered, h.ids,
        (generateNextClientId_spec h).1 hextensible.last_visible]
    · exact hextensible.below
  | softDelete clientId => exact numbered_setDeleted h true clientId
  | restoreDocument clientId => exact numbered_setDeleted h false clientId

/-- The creations of a run make new and well-formed ids exactly when at each of them the client that
was created last is not deleted, and there are fewer than 999999 clients. -/
theorem client_ids_fresh_iff (operations : List Operation) :
    AlwaysFresh operations ↔
      Admits step (fun operation clients => operation = .create → Extensible clients)
        operations [] := by
  have hempty : Numbered [] := ⟨rfl, by decide⟩
  have hiff (operation : Operation) (clients : Clients) (h : Numbered clients) :
      (operation = .create → CreatesFresh clients) ↔
        (operation = .create → Extensible clients) :=
    imp_congr_right fun _ => createsFresh_iff h
  constructor
  · exact Admits.imp (fun operation clients h hok => h.step operation hok)
      (fun operation clients h hok => (hiff operation clients h).mp hok) hempty
  · exact Admits.imp
      (fun operation clients h hok => h.step operation ((hiff operation clients h).mpr hok))
      (fun operation clients h hok => (hiff operation clients h).mpr hok) hempty

/-- Two clients are created, the second is deleted, and a third is to be created. -/
def deletedLast : List Operation := [.create, .create, .softDelete "C000002", .create]

/-- The third client gets the id of the deleted one, and is stopped. -/
theorem client_ids_fresh_fails :
    generateNextClientId (run step (deletedLast.take 3) []) = "C000002" ∧
      run step deletedLast [] = [⟨"C000002", true⟩, ⟨"C000001", false⟩] ∧
      ¬AlwaysFresh deletedLast := by
  have hnext : generateNextClientId (run step (deletedLast.take 3) []) = "C000002" := by
    decide
  have hdeleted : run step (deletedLast.take 3) [] = [⟨"C000002", true⟩, ⟨"C000001", false⟩] := by
    decide
  refine ⟨hnext, by decide, fun h => ?_⟩
  have hfresh := (h.2.2.2.1 rfl).fresh ⟨"C000002", true⟩
  refine hfresh ?_ ?_
  · change _ ∈ run step (deletedLast.take 3) []
    rw [hdeleted]
    exact List.mem_cons_self
  · change "C000002" = generateNextClientId (run step (deletedLast.take 3) [])
    exact hnext.symm

end Docketra.ClientIds
