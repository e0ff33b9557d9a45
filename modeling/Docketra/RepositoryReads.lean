import Docketra.TenantIdentity
import Docketra.TenantScope
import Docketra.Lib.Checked
import Mathlib.Data.List.Basic
import Mathlib.Data.List.Find
import Mathlib.Data.List.Nodup

/-!
# Reads through the repositories

`CaseRepository` and `ClientRepository` read with the filter `{ firmId, ...query }`, where a `firmId`
in the query replaces the one of the caller. The reads depend on nothing but the documents of the
caller's firm exactly when the query is refused, has no `firmId` of its own, or lets no document of
another firm through (`reads_stay_iff`). What occurs under `$and`, `$or` and `$nor` makes no
difference without a `firmId` beside it.

The keys of a tenant count among its documents. A query is what mongoose makes of it, without the
fields that the schema does not know; a `firmId` that is `undefined` is `null`. The repositories give
a query no role, so the tenant scope guard lets it through. Of the options of a query, `populate` is
left out.
-/

namespace Docketra.RepositoryReads

open Checked TenantIdentity TenantScope

/-! ## Documents and queries -/

/-- A stored document. -/
structure Record (α : Type) where
  id : String
  firmId : String
  deletedAt : Option ℤ
  fields : α
  deriving DecidableEq

def Record.document {α : Type} (record : Record α) : Document (Record α) := ⟨record.firmId, record⟩

/-- The fields of a client that name its tenant, and the rest of them. -/
structure ClientFields (γ : Type) where
  isDefaultClient : Bool
  firmSlug : Option String
  businessName : Option String
  status : Option String
  rest : γ
  deriving DecidableEq

variable {α γ : Type}

/-- A client as the resolvers of the tenant see it. -/
def tenantClient (record : Record (ClientFields γ)) : Client where
  id := record.id
  firmId := some record.firmId
  isDefaultClient := record.fields.isDefaultClient
  firmSlug := record.fields.firmSlug
  businessName := record.fields.businessName
  status := record.fields.status
  deletedAt := record.deletedAt

/-- The two collections, the tenants among the clients and the firms, and what the keys of a tenant
make of the encrypted fields of a document. -/
structure Database (α γ : Type) where
  cases : List (Record α)
  clients : List (Record (ClientFields γ))
  tenants : CoherentDatabase
  tenants_clients : tenants.clients = clients.map tenantClient
  decryptCase : String → α → α
  decryptClient : Option (List String) → String → ClientFields γ → Except String (ClientFields γ)

inductive IncludeDeleted where
  | falsy
  | yes
  | truthy
  deriving DecidableEq

/-- A query: its filter, whether `caseNumber` is truthy and `deletedAt` defined at its top, and
whether its values have the types of the schema. -/
structure Query (α : Type) where
  filter : TenantScope.Filter (Record α)
  caseNumber : Bool
  deletedAt : Bool
  includeDeleted : IncludeDeleted
  castable : Bool

/-- `{ firmId, ...filter }`. -/
def scopedFilter {β : Type} (firmId : Option String) : TenantScope.Filter β → TenantScope.Filter β
  -- The later key wins.
  | .mk own fields and or nor => .mk (own.or (some [.eq firmId])) fields and or nor

/-- `{ firmId, ...query }`. -/
def Query.scoped (query : Query α) (firmId : Option String) : Query α :=
  { query with filter := scopedFilter firmId query.filter }

/-- `applyDefaultDeletedFilter` finds the query good. -/
def checkDeletedFilter (query : Query α) : Except String Unit :=
  throwIf (query.deletedAt = true ∧ query.includeDeleted ≠ .yes)
    "Manual deletedAt filters are forbidden. Use includeDeleted()."

/-- The documents that a query finds: the filter matches, and they are not deleted unless the query
includes the deleted ones. -/
def Query.finds (query : Query α) (record : Record α) : Bool :=
  (query.includeDeleted ≠ .falsy || record.deletedAt.isNone) &&
    query.filter.matches record.document

/-- `Model.find`. -/
def modelFind (docs : List (Record α)) (query : Query α) : Except String (List (Record α)) := do
  checkDeletedFilter query
  throwIf (query.castable = false) "CastError"
  return docs.filter query.finds

/-! ## The repositories -/

def assertTenantId (firmId : String) : Except String Unit :=
  throwIf (firmId = "") "TenantId required"

/-- `_guardSuperadmin`, which removes one underscore from the role. -/
def guardSuperadmin (role : Option String) : Except String Unit :=
  match orElse role none with
  | none => .error "SECURITY: role is required for repository access"
  | some role =>
    throwIf ((toLowerCase role).toList.erase '_' = "superadmin".toList)
      "Superadmin cannot access decrypted tenant data"

def validateQuery (query : Query α) : Except String Unit :=
  throwIf (query.caseNumber = true)
    ("SECURITY: caseNumber must never be used for internal lookup. " ++
      "Use caseInternalId or findByCaseNumber with explicit conversion.")

/-- `_decryptCaseDoc`, with the keys of the caller's firm. -/
def decryptCaseDoc (db : Database α γ) (firmId : String) (doc : Record α) : Record α :=
  { doc with fields := db.decryptCase firmId doc.fields }

namespace CaseRepository

def find (db : Database α γ) (firmId : String) (query : Query α) (role : Option String) :
    Except String (List (Record α)) := do
  assertTenantId firmId
  guardSuperadmin role
  validateQuery query
  let docs ← modelFind db.cases (query.scoped (some firmId))
  return docs.map (decryptCaseDoc db firmId)

def findOne (db : Database α γ) (firmId : String) (query : Query α) (role : Option String) :
    Except String (Option (Record α)) := do
  assertTenantId firmId
  guardSuperadmin role
  validateQuery query
  let docs ← modelFind db.cases (query.scoped (some firmId))
  return docs.head?.map (decryptCaseDoc db firmId)

def count (db : Database α γ) (firmId : String) (query : Query α) : Except String ℕ := do
  assertTenantId firmId
  let docs ← modelFind db.cases (query.scoped (some firmId))
  return docs.length

end CaseRepository

/-- The fields that a query selects. -/
structure Selection (γ : Type) where
  firmId : Bool
  deletedAt : Bool
  fields : ClientFields γ → ClientFields γ

/-- The options of a client query. -/
structure Options (γ : Type) where
  select : Option (Selection γ)
  sort : Option (Record (ClientFields γ) → Record (ClientFields γ) → Bool)
  limit : Option ℕ
  skip : Option ℕ
  decryptFields : Option (List String)

/-- A client as a query returns it. -/
structure Found (γ : Type) where
  id : String
  firmId : Option String
  deletedAt : Option ℤ
  fields : ClientFields γ
  deriving DecidableEq

/-- The documents from which a query takes as many as its limit. -/
def Options.inOrder (options : Options γ) (docs : List (Record (ClientFields γ))) :
    List (Record (ClientFields γ)) :=
  ((options.sort.map fun le => docs.mergeSort le).getD docs).drop (options.skip.getD 0)

/-- The limit `0` is none. -/
def Options.take (options : Options γ) (docs : List (Record (ClientFields γ))) :
    List (Record (ClientFields γ)) :=
  match options.limit with
  | none | some 0 => docs
  | some limit => docs.take limit

def Options.selected (options : Options γ) (doc : Record (ClientFields γ)) : Found γ :=
  match options.select with
  | none => ⟨doc.id, some doc.firmId, doc.deletedAt, doc.fields⟩
  | some selection =>
    ⟨doc.id, if selection.firmId then some doc.firmId else none,
      if selection.deletedAt then doc.deletedAt else none, selection.fields doc.fields⟩

/-- `_decryptClientDoc`, with the keys of the firm that the document names, or else of the
caller's. -/
def decryptClientDoc (db : Database α γ) (firmId : String) (options : Options γ) (doc : Found γ) :
    Except String (Found γ) :=
  -- A document of another firm is decrypted with the keys of that firm.
  match orElse doc.firmId (some firmId) with
  | none => .ok doc
  | some tenantId => do
    let fields ← db.decryptClient options.decryptFields tenantId doc.fields
    return { doc with fields := fields }

namespace ClientRepository

def resolveOwnershipFirmId (db : Database α γ) (firmId : String) :
    Except String (Option String) := do
  assertTenantId firmId
  return resolveClientOwnershipFirmId db.tenants.toDatabase firmId

def find (db : Database α γ) (firmId : String) (query : Query (ClientFields γ))
    (role : Option String) (options : Options γ) : Except String (List (Found γ)) := do
  let ownershipFirmId ← resolveOwnershipFirmId db firmId
  guardSuperadmin role
  let docs ← modelFind db.clients (query.scoped ownershipFirmId)
  ((options.take (options.inOrder docs)).map options.selected).mapM
    (decryptClientDoc db firmId options)

def findOne (db : Database α γ) (firmId : String) (query : Query (ClientFields γ))
    (role : Option String) (options : Options γ) : Except String (Option (Found γ)) := do
  let ownershipFirmId ← resolveOwnershipFirmId db firmId
  guardSuperadmin role
  let docs ← modelFind db.clients (query.scoped ownershipFirmId)
  match (options.inOrder docs).head? with
  | none => return none
  | some doc => return some (← decryptClientDoc db firmId options (options.selected doc))

end ClientRepository

/-! ## What is asked -/

/-- The ids of the firm as a tenant. -/
def isNamed (firm : Firm) (id : String) : Bool := id == firm.id || firm.defaultClientId == some id

/-- The document belongs to the firm. -/
def owns (firm : Firm) (record : Record α) : Bool := isNamed firm record.firmId

/-- Both databases have the firm, with the same documents and keys. -/
structure Agree (firm : Firm) (db db' : Database α γ) : Prop where
  firm_mem : firm ∈ db.tenants.firms
  firm_mem' : firm ∈ db'.tenants.firms
  cases : db.cases.filter (owns firm) = db'.cases.filter (owns firm)
  clients : db.clients.filter (owns firm) = db'.clients.filter (owns firm)
  decryptCase : ∀ id, isNamed firm id = true → db.decryptCase id = db'.decryptCase id
  decryptClient : ∀ fields id, isNamed firm id = true →
    db.decryptClient fields id = db'.decryptClient fields id

/-- The reads return the same in both databases. -/
structure ReadsAlike (db db' : Database α γ) (firmId : String) (role : Option String)
    (caseQuery : Query α) (clientQuery : Query (ClientFields γ)) (options : Options γ) : Prop where
  caseFind : CaseRepository.find db firmId caseQuery role =
    CaseRepository.find db' firmId caseQuery role
  caseFindOne : CaseRepository.findOne db firmId caseQuery role =
    CaseRepository.findOne db' firmId caseQuery role
  caseCount : CaseRepository.count db firmId caseQuery = CaseRepository.count db' firmId caseQuery
  clientFind : ClientRepository.find db firmId clientQuery role options =
    ClientRepository.find db' firmId clientQuery role options
  clientFindOne : ClientRepository.findOne db firmId clientQuery role options =
    ClientRepository.findOne db' firmId clientQuery role options

/-- The reads of a firm's caller return the same in any two databases that agree on the firm. -/
def ReadsStay (firm : Firm) (role : Option String) (caseQuery : Query α)
    (clientQuery : Query (ClientFields γ)) : Prop :=
  ∀ db db' : Database α γ, Agree firm db db' → ∀ firmId, isNamed firm firmId = true →
    ∀ options, ReadsAlike db db' firmId role caseQuery clientQuery options

/-- A firm as it is stored. -/
structure StoredFirm extends Firm where
  id_ne : id ≠ ""
  slug_ne : firmSlug ≠ ""
  default_ne : ∀ client, defaultClientId = some client → client ≠ "" ∧ id ≠ client

/-- The hooks, or the types of the schema, refuse the query. -/
def Refused (query : Query α) : Prop :=
  (query.deletedAt = true ∧ query.includeDeleted ≠ .yes) ∨ query.castable = false

def ownFirmId {β : Type} : TenantScope.Filter β → Option (List Operator)
  | .mk own _ _ _ _ => own

/-- The query has no `firmId` of its own, or finds none of these documents. -/
def Excludes (query : Query α) (foreign : Record α → Prop) : Prop :=
  ownFirmId query.filter = none ∨ ∀ record, foreign record → query.finds record = false

def ForeignCase (firm : Firm) (record : Record α) : Prop := owns firm record = false

/-- A client of another firm, whose id is none of the firm's. -/
structure ForeignClient (firm : Firm) (record : Record (ClientFields γ)) : Prop where
  firmId : owns firm record = false
  id_ne : record.id ≠ ""
  id : isNamed firm record.id = false

/-! ## The ids of a firm -/

section tenants

variable {db db' : CoherentDatabase} {firm : Firm} {id : String}

theorem isNamed_iff : isNamed firm id = true ↔ id = firm.id ∨ firm.defaultClientId = some id := by
  simp only [isNamed, Bool.or_eq_true, beq_iff_eq]

theorem isNamed_self : isNamed firm firm.id = true := isNamed_iff.mpr (Or.inl rfl)

/-- A client with an id of the firm is its default client. -/
theorem firmId_of_named (hfirm : firm ∈ db.firms) {client : Client} (hmem : client ∈ db.clients)
    (hid : isNamed firm client.id = true) : client.firmId = some firm.id := by
  rcases isNamed_iff.mp hid with hself | hdefault
  · -- No client has the id of a firm.
    exact absurd hself.symm (db.disjoint firm hfirm client hmem)
  · obtain ⟨client', hmem', hid', -, hfirmId, -⟩ := db.default firm hfirm _ hdefault
    have hsame : client' = client := List.inj_on_of_nodup_map db.client_ids hmem' hmem hid'
    exact hsame ▸ hfirmId

theorem ne_empty_of_named (hfirm : firm ∈ db.firms) (hid : isNamed firm id = true) : id ≠ "" := by
  rcases isNamed_iff.mp hid with hself | hdefault
  · exact hself ▸ (db.ids_ne firm hfirm).1
  · obtain ⟨client, hmem, hclient, -⟩ := db.default firm hfirm _ hdefault
    exact hclient ▸ db.client_ids_ne client hmem

/-- The clients that belong to the firm. -/
def ownedClients (firm : Firm) (db : CoherentDatabase) : List Client :=
  db.clients.filter fun client => client.firmId.any (isNamed firm)

/-- A default client with an id of the firm is found among the clients of the firm. -/
theorem findDefaultClient_named (hfirm : firm ∈ db.firms) (hid : isNamed firm id = true) :
    findDefaultClient db.toDatabase (fun client => client.id == id) =
      (ownedClients firm db).find? fun client =>
        client.isDefaultClient && client.deletedAt.isNone && client.id == id := by
  unfold findDefaultClient ownedClients
  rw [List.find?_filter]
  refine List.find?_congr fun client hmem => Bool.eq_iff_iff.mpr ?_
  simp only [Bool.and_eq_true, decide_eq_true_eq, beq_iff_eq]
  constructor
  · intro h
    have howner := firmId_of_named hfirm hmem (h.2 ▸ hid)
    exact ⟨howner ▸ isNamed_self, h⟩
  · exact fun h => h.2

/-- No other firm has an id of the firm. -/
theorem findFirm_named (hfirm : firm ∈ db.firms) (hid : isNamed firm id = true) :
    findFirm db.toDatabase (fun f => f.id == id) = if id = firm.id then some firm else none := by
  by_cases hself : id = firm.id
  · rw [if_pos hself, hself]
    exact findFirm_id hfirm
  · rw [if_neg hself]
    have hdefault := (isNamed_iff.mp hid).resolve_left hself
    obtain ⟨client, hmem, hclient, -⟩ := db.default firm hfirm _ hdefault
    refine List.find?_eq_none.mpr fun f hf hfound => ?_
    rw [beq_iff_eq] at hfound
    exact db.disjoint f hf client hmem (hfound.trans hclient.symm)

/-- An id of the firm resolves alike in two databases that have the firm and the same clients of
it. -/
theorem resolve_named_congr (hfirm : firm ∈ db.firms) (hfirm' : firm ∈ db'.firms)
    (hclients : ownedClients firm db = ownedClients firm db') (hid : isNamed firm id = true) :
    resolveClientOwnershipFirmId db.toDatabase id =
      resolveClientOwnershipFirmId db'.toDatabase id := by
  have hfound : ∀ i, isNamed firm i = true →
      findDefaultClient db.toDatabase (fun client => client.id == i) =
        findDefaultClient db'.toDatabase (fun client => client.id == i) := by
    intro i hi
    rw [findDefaultClient_named hfirm hi, findDefaultClient_named hfirm' hi, hclients]
  have hlive : liveDefaultClient db.toDatabase firm = liveDefaultClient db'.toDatabase firm := by
    unfold liveDefaultClient
    cases hdefault : firm.defaultClientId with
    | none => rfl
    | some i => exact hfound i (isNamed_iff.mpr (Or.inr hdefault))
  -- The resolver looks up a default client, the firm, and the firm's default client.
  have hcanonical : resolveCanonicalTenantFromFirmId db.toDatabase (some id) =
      resolveCanonicalTenantFromFirmId db'.toDatabase (some id) := by
    unfold liveDefaultClient at hlive
    unfold resolveCanonicalTenantFromFirmId
    simp only [hfound id hid, findFirm_named hfirm hid, findFirm_named hfirm' hid]
    by_cases hself : id = firm.id
    · simp only [if_pos hself, hlive]
    · simp only [if_neg hself]
  rw [resolveClientOwnershipFirmId, resolveClientOwnershipFirmId, hcanonical]

/-- The owner of a firm's clients is the firm, under one of its ids. -/
theorem resolve_named (hfirm : firm ∈ db.firms) (hid : isNamed firm id = true) :
    ∃ owner, resolveClientOwnershipFirmId db.toDatabase id = some owner ∧
      isNamed firm owner = true := by
  have hne := ne_empty_of_named hfirm hid
  have hcanonical :
      (resolveCanonicalTenantFromFirmId db.toDatabase (some id)).bind Context.ownershipFirmId =
          some firm.id ∨
        (resolveCanonicalTenantFromFirmId db.toDatabase (some id)).bind Context.ownershipFirmId =
          none := by
    by_cases hself : id = firm.id
    · left
      obtain ⟨-, -, -, howner⟩ := canonicalNames_some hfirm
      obtain ⟨context, hcontext, hnames⟩ := Option.map_eq_some_iff.mp (resolve_firm hfirm)
      rw [hself, hcontext, Option.bind_some, ← howner, ← hnames]
      rfl
    · unfold resolveCanonicalTenantFromFirmId
      simp only [findFirm_named hfirm hid, if_neg hself]
      cases hclient : findDefaultClient db.toDatabase fun client => client.id == id with
      -- The default client is deleted, and `resolveClientOwnershipFirmId` keeps the id.
      | none => exact Or.inr rfl
      | some client =>
        left
        obtain ⟨hmem, -, -, heq⟩ := findDefaultClient_some hclient
        have howner := firmId_of_named hfirm hmem ((beq_iff_eq.mp heq).symm ▸ hid)
        simp only [Option.bind_some, Client.ownershipFirmId, howner, Option.getD_some]
  unfold resolveClientOwnershipFirmId
  rw [if_neg hne]
  split
  · rcases hcanonical with h | h
    · rw [h, orElse_of_ne (db.ids_ne firm hfirm).1]
      exact ⟨firm.id, rfl, isNamed_self⟩
    · rw [h]
      exact ⟨id, rfl, hid⟩
  · exact ⟨id, rfl, hid⟩

end tenants

/-! ## Documents of a firm -/

/-- A filter that keeps only owned documents keeps the same ones in two lists with the same owned
documents. -/
theorem filter_congr_of_owned {owned p : α → Bool} {l l' : List α}
    (h : l.filter owned = l'.filter owned) (hl : ∀ a ∈ l, p a = true → owned a = true)
    (hl' : ∀ a ∈ l', p a = true → owned a = true) : l.filter p = l'.filter p := by
  have hsplit : ∀ m : List α, (∀ a ∈ m, p a = true → owned a = true) →
      m.filter p = (m.filter owned).filter p := by
    intro m hm
    rw [List.filter_filter]
    refine List.filter_congr fun a ha => Bool.eq_iff_iff.mpr ?_
    rw [Bool.and_eq_true]
    exact ⟨fun hp => ⟨hp, hm a ha hp⟩, fun hp => hp.1⟩
  rw [hsplit l hl, hsplit l' hl', h]

/-- A filter with a `firmId` of its own keeps it. -/
theorem scopedFilter_of_own {filter : TenantScope.Filter α} (h : ownFirmId filter ≠ none)
    (firmId : Option String) : scopedFilter firmId filter = filter := by
  cases filter with
  | mk own fields and or nor =>
    cases own with
    | none => exact absurd rfl h
    | some operators => rfl

/-- What a filter without a `firmId` of its own matches in the scope of a firm is the firm's. -/
theorem firmId_of_matches_scoped {filter : TenantScope.Filter α} (h : ownFirmId filter = none)
    {owner : String} {doc : Document α}
    (hmatches : (scopedFilter (some owner) filter).matches doc = true) : doc.firmId = owner := by
  cases filter with
  | mk own fields and or nor =>
    cases own with
    | some operators => cases h
    | none =>
      simp only [scopedFilter, Option.none_or, Filter.matches, Bool.and_eq_true] at hmatches
      obtain ⟨⟨⟨⟨hfirm, -⟩, -⟩, -⟩, -⟩ := hmatches
      simp only [Option.all_some, allAccept, Operator.accepts, Bool.and_true,
        decide_eq_true_eq] at hfirm
      exact (Option.some_inj.mp hfirm).symm

/-- What a query finds in the scope of a firm is the firm's, when it excludes what is not. -/
theorem owns_of_finds {firm : Firm} {query : Query α} {foreign : Record α → Prop}
    (hquery : Excludes query foreign) {owner : String} (howner : isNamed firm owner = true)
    {record : Record α} (hforeign : owns firm record = false → foreign record)
    (h : (query.scoped (some owner)).finds record = true) : owns firm record = true := by
  by_cases hown : ownFirmId query.filter = none
  · have hmatches : (scopedFilter (some owner) query.filter).matches record.document = true :=
      ((Bool.and_eq_true _ _).mp h).2
    have hfirm : record.firmId = owner := firmId_of_matches_scoped hown hmatches
    exact (congrArg (isNamed firm) hfirm).trans howner
  · -- The query's own `firmId` replaces the scope, so its own conditions have to do.
    have hscoped : query.scoped (some owner) = query := by
      rw [Query.scoped, scopedFilter_of_own hown]
    rw [hscoped] at h
    by_contra hforeign'
    rw [Bool.not_eq_true] at hforeign'
    have hnot := hquery.resolve_left hown record (hforeign hforeign')
    exact absurd h (Bool.not_eq_true _ ▸ hnot)

theorem modelFind_of_refused {query : Query α} (h : Refused query) :
    ∃ e, ∀ docs : List (Record α), modelFind docs query = .error e := by
  by_cases hdeleted : query.deletedAt = true ∧ query.includeDeleted ≠ .yes
  · exact ⟨_, fun docs => by rw [modelFind, checkDeletedFilter, throwIf, if_pos hdeleted]; rfl⟩
  · have hcast := h.resolve_left hdeleted
    refine ⟨"CastError", fun docs => ?_⟩
    rw [modelFind, checkDeletedFilter, throwIf_neg hdeleted, ok_bind, throwIf, if_pos hcast]
    rfl

theorem modelFind_of_accepted {query : Query α} (h : ¬ Refused query) (docs : List (Record α)) :
    modelFind docs query = .ok (docs.filter query.finds) := by
  obtain ⟨hdeleted, hcast⟩ := not_or.mp h
  rw [modelFind, checkDeletedFilter, throwIf_neg hdeleted, ok_bind, throwIf_neg hcast, ok_bind]
  rfl

/-- A query that excludes the documents of other firms finds the same in two collections with the
same documents of the firm. -/
theorem modelFind_congr {firm : Firm} {query : Query α} {foreign : Record α → Prop}
    (hquery : Refused query ∨ Excludes query foreign) {owner : String}
    (howner : isNamed firm owner = true) {docs docs' : List (Record α)}
    (hdocs : docs.filter (owns firm) = docs'.filter (owns firm))
    (hforeign : ∀ record ∈ docs, owns firm record = false → foreign record)
    (hforeign' : ∀ record ∈ docs', owns firm record = false → foreign record) :
    modelFind docs (query.scoped (some owner)) = modelFind docs' (query.scoped (some owner)) := by
  by_cases hrefused : Refused query
  · -- The error is the same for every collection.
    have hscoped : Refused (query.scoped (some owner)) := hrefused
    obtain ⟨e, he⟩ := modelFind_of_refused hscoped
    rw [he, he]
  · have hscoped : ¬ Refused (query.scoped (some owner)) := hrefused
    have hexcludes := hquery.resolve_left hrefused
    have hfilter : docs.filter (query.scoped (some owner)).finds =
        docs'.filter (query.scoped (some owner)).finds :=
      filter_congr_of_owned hdocs
        (fun record hmem => owns_of_finds hexcludes howner (hforeign record hmem))
        (fun record hmem => owns_of_finds hexcludes howner (hforeign' record hmem))
    rw [modelFind_of_accepted hscoped, modelFind_of_accepted hscoped, hfilter]

/-- What a query finds that excludes the documents of other firms is the firm's. -/
theorem owns_of_mem_modelFind {firm : Firm} {query : Query α} {foreign : Record α → Prop}
    (hquery : Refused query ∨ Excludes query foreign) {owner : String}
    (howner : isNamed firm owner = true) {docs found : List (Record α)}
    (hforeign : ∀ record ∈ docs, owns firm record = false → foreign record)
    (hfound : modelFind docs (query.scoped (some owner)) = .ok found) :
    ∀ record ∈ found, owns firm record = true := by
  by_cases hrefused : Refused query
  · have hscoped : Refused (query.scoped (some owner)) := hrefused
    obtain ⟨e, he⟩ := modelFind_of_refused hscoped
    rw [he] at hfound
    cases hfound
  · have hscoped : ¬ Refused (query.scoped (some owner)) := hrefused
    rw [modelFind_of_accepted hscoped] at hfound
    cases hfound
    intro record hmem
    obtain ⟨hdocs, hfinds⟩ := List.mem_filter.mp hmem
    exact owns_of_finds (hquery.resolve_left hrefused) howner (hforeign record hdocs) hfinds

/-! ## The reads of a caller -/

section reads

variable {firm : Firm} {db db' : Database α γ} {firmId : String}

/-- A client that the firm does not own is another firm's. -/
theorem foreignClient_of_mem (hfirm : firm ∈ db.tenants.firms)
    {record : Record (ClientFields γ)} (hmem : record ∈ db.clients)
    (howns : owns firm record = false) : ForeignClient firm record := by
  have hclient : tenantClient record ∈ db.tenants.clients := by
    rw [db.tenants_clients]
    exact List.mem_map_of_mem hmem
  refine ⟨howns, db.tenants.client_ids_ne _ hclient, ?_⟩
  by_contra hnamed
  rw [Bool.not_eq_false] at hnamed
  have hfirmId := Option.some_inj.mp (firmId_of_named hfirm hclient hnamed)
  have hown : owns firm record = true := (congrArg (isNamed firm) hfirmId).trans isNamed_self
  exact absurd hown (Bool.not_eq_true _ ▸ howns)

theorem ownedClients_eq (firm : Firm) (db : Database α γ) :
    ownedClients firm db.tenants = (db.clients.filter (owns firm)).map tenantClient := by
  unfold ownedClients
  rw [db.tenants_clients, List.filter_map]
  rfl

theorem mem_of_mem_inOrder {options : Options γ} {docs : List (Record (ClientFields γ))}
    {doc : Record (ClientFields γ)} (h : doc ∈ options.inOrder docs) : doc ∈ docs := by
  have hdrop := List.mem_of_mem_drop h
  cases hsort : options.sort with
  | none => simpa only [hsort, Option.map_none, Option.getD_none] using hdrop
  | some le => simpa only [hsort, Option.map_some, Option.getD_some, List.mem_mergeSort] using hdrop

theorem mem_of_mem_take {options : Options γ} {docs : List (Record (ClientFields γ))}
    {doc : Record (ClientFields γ)} (h : doc ∈ options.take docs) : doc ∈ docs := by
  unfold Options.take at h
  split at h
  · exact h
  · exact h
  · exact List.mem_of_mem_take h

/-- A selected client names its firm, or none. -/
theorem selected_firmId {options : Options γ} {doc : Record (ClientFields γ)} {id : String}
    (h : (options.selected doc).firmId = some id) : doc.firmId = id := by
  unfold Options.selected at h
  split at h
  · exact Option.some_inj.mp h
  · split at h
    · exact Option.some_inj.mp h
    · cases h

theorem decryptClientDoc_congr (hagree : Agree firm db db') (hid : isNamed firm firmId = true)
    {options : Options γ} {doc : Record (ClientFields γ)} (howns : owns firm doc = true) :
    decryptClientDoc db firmId options (options.selected doc) =
      decryptClientDoc db' firmId options (options.selected doc) := by
  -- The keys are those of the document's firm or the caller's, and both are the firm's.
  have hnamed : ∀ tenantId, orElse (options.selected doc).firmId (some firmId) = some tenantId →
      isNamed firm tenantId = true := by
    intro tenantId h
    unfold orElse at h
    split at h
    · exact (selected_firmId h) ▸ howns
    · exact (Option.some_inj.mp h) ▸ hid
  unfold decryptClientDoc
  cases htenant : orElse (options.selected doc).firmId (some firmId) with
  | none => rfl
  | some tenantId => simp only [hagree.decryptClient _ tenantId (hnamed tenantId htenant)]

/-- The owner of the clients, in two databases that agree on the firm. -/
theorem resolveOwnershipFirmId_congr (hagree : Agree firm db db')
    (hid : isNamed firm firmId = true) :
    ∃ owner, isNamed firm owner = true ∧
      ClientRepository.resolveOwnershipFirmId db firmId = .ok (some owner) ∧
      ClientRepository.resolveOwnershipFirmId db' firmId = .ok (some owner) := by
  have hne := ne_empty_of_named hagree.firm_mem hid
  obtain ⟨owner, howner, hnamed⟩ := resolve_named hagree.firm_mem hid
  have hclients : ownedClients firm db.tenants = ownedClients firm db'.tenants := by
    rw [ownedClients_eq, ownedClients_eq, hagree.clients]
  have howner' := howner
  rw [resolve_named_congr hagree.firm_mem hagree.firm_mem' hclients hid] at howner'
  refine ⟨owner, hnamed, ?_, ?_⟩
  · rw [ClientRepository.resolveOwnershipFirmId, assertTenantId, throwIf_neg hne, ok_bind, howner]
    rfl
  · rw [ClientRepository.resolveOwnershipFirmId, assertTenantId, throwIf_neg hne, ok_bind, howner']
    rfl

theorem mapM_congr {β δ : Type} {f g : β → Except String δ} :
    ∀ {l : List β}, (∀ b ∈ l, f b = g b) → l.mapM f = l.mapM g
  | [], _ => rfl
  | b :: l, h => by
    have hrest := mapM_congr fun b' hb' => h b' (List.mem_cons_of_mem b hb')
    rw [List.mapM_cons, List.mapM_cons, h b List.mem_cons_self, hrest]

/-- A query that excludes the clients of other firms finds the same ones in both databases, and they
are the firm's. -/
theorem clients_congr (hagree : Agree firm db db') {clientQuery : Query (ClientFields γ)}
    (hquery : Refused clientQuery ∨ Excludes clientQuery (ForeignClient firm)) {owner : String}
    (howner : isNamed firm owner = true) :
    modelFind db.clients (clientQuery.scoped (some owner)) =
        modelFind db'.clients (clientQuery.scoped (some owner)) ∧
      ∀ found, modelFind db'.clients (clientQuery.scoped (some owner)) = .ok found →
        ∀ record ∈ found, owns firm record = true := by
  have hforeign : ∀ record ∈ db.clients, owns firm record = false → ForeignClient firm record :=
    fun _ hmem => foreignClient_of_mem hagree.firm_mem hmem
  have hforeign' : ∀ record ∈ db'.clients, owns firm record = false → ForeignClient firm record :=
    fun _ hmem => foreignClient_of_mem hagree.firm_mem' hmem
  exact ⟨modelFind_congr hquery howner hagree.clients hforeign hforeign',
    fun _ hfound => owns_of_mem_modelFind hquery howner hforeign' hfound⟩

/-- **The reads of a caller are the same in two databases that agree on the firm, when the queries
exclude the documents of the others.** -/
theorem readsAlike_of_agree (hagree : Agree firm db db') (hid : isNamed firm firmId = true)
    {role : Option String} {caseQuery : Query α} {clientQuery : Query (ClientFields γ)}
    (hcase : Refused caseQuery ∨ Excludes caseQuery (ForeignCase firm))
    (hclient : guardSuperadmin role = .ok () →
      Refused clientQuery ∨ Excludes clientQuery (ForeignClient firm))
    (options : Options γ) : ReadsAlike db db' firmId role caseQuery clientQuery options := by
  have hcases := modelFind_congr hcase hid hagree.cases (fun _ _ h => h) (fun _ _ h => h)
  have hdecrypt : decryptCaseDoc db firmId = decryptCaseDoc db' firmId := by
    unfold decryptCaseDoc
    rw [hagree.decryptCase firmId hid]
  obtain ⟨owner, howner, hresolve, hresolve'⟩ := resolveOwnershipFirmId_congr hagree hid
  constructor
  · rw [CaseRepository.find, CaseRepository.find, hcases, hdecrypt]
  · rw [CaseRepository.findOne, CaseRepository.findOne, hcases, hdecrypt]
  · rw [CaseRepository.count, CaseRepository.count, hcases]
  · rw [ClientRepository.find, ClientRepository.find, hresolve, hresolve', ok_bind, ok_bind]
    cases hguard : guardSuperadmin role with
    | error e => rfl
    | ok u =>
      -- One list is found in both databases, so only the keys could tell them apart.
      obtain ⟨hclients, howns⟩ := clients_congr hagree (hclient hguard) howner
      rw [ok_bind, ok_bind, hclients]
      cases hfound : modelFind db'.clients (clientQuery.scoped (some owner)) with
      | error e => rfl
      | ok found =>
        rw [ok_bind, ok_bind]
        refine mapM_congr fun doc hdoc => ?_
        obtain ⟨record, hrecord, rfl⟩ := List.mem_map.mp hdoc
        have hmem := mem_of_mem_inOrder (mem_of_mem_take hrecord)
        exact decryptClientDoc_congr hagree hid (howns found hfound record hmem)
  · rw [ClientRepository.findOne, ClientRepository.findOne, hresolve, hresolve', ok_bind, ok_bind]
    cases hguard : guardSuperadmin role with
    | error e => rfl
    | ok u =>
      obtain ⟨hclients, howns⟩ := clients_congr hagree (hclient hguard) howner
      rw [ok_bind, ok_bind, hclients]
      cases hfound : modelFind db'.clients (clientQuery.scoped (some owner)) with
      | error e => rfl
      | ok found =>
        rw [ok_bind, ok_bind]
        cases hhead : (options.inOrder found).head? with
        | none => rfl
        | some record =>
          have hmem := mem_of_mem_inOrder (List.mem_of_head? hhead)
          simp only [decryptClientDoc_congr hagree hid (howns found hfound record hmem)]

end reads

/-! ## Documents of another firm -/

/-- A query that does not exclude the documents of other firms finds one. -/
theorem exists_of_not_excludes {query : Query α} {foreign : Record α → Prop}
    (h : ¬ Excludes query foreign) :
    ∃ record, foreign record ∧ query.finds record = true ∧
      ∀ firmId, query.scoped firmId = query := by
  obtain ⟨hown, hfinds⟩ := not_or.mp h
  push Not at hfinds
  obtain ⟨record, hforeign, hfinds⟩ := hfinds
  refine ⟨record, hforeign, Bool.eq_true_of_not_eq_false hfinds, fun firmId => ?_⟩
  rw [Query.scoped, scopedFilter_of_own hown]

theorem count_eq {firm : StoredFirm} (db : Database α γ) {query : Query α}
    (hrefused : ¬ Refused query) (hscoped : ∀ firmId, query.scoped firmId = query) :
    CaseRepository.count db firm.id query = .ok (db.cases.filter query.finds).length := by
  rw [CaseRepository.count, assertTenantId, throwIf_neg firm.id_ne, ok_bind, hscoped,
    modelFind_of_accepted hrefused]
  rfl

section foreign

variable [Inhabited γ]

/-- The default client of a firm that has no other client. -/
def defaultClients (firm : Firm) : List (Record (ClientFields γ)) :=
  firm.defaultClientId.toList.map fun id =>
    ⟨id, firm.id, none, ⟨true, some firm.firmSlug, none, none, default⟩⟩

theorem mem_defaultClients {firm : Firm} {record : Record (ClientFields γ)}
    (h : record ∈ defaultClients firm) : firm.defaultClientId = some record.id := by
  obtain ⟨id, hid, rfl⟩ := List.mem_map.mp h
  exact Option.mem_toList.mp hid

theorem nodup_defaultClients (firm : Firm) :
    ((defaultClients firm : List (Record (ClientFields γ))).map Record.id).Nodup := by
  unfold defaultClients
  cases firm.defaultClientId with
  | none => exact List.nodup_nil
  | some id => exact List.nodup_singleton id

/-- The firm with its default client and with these documents of others, which no key encrypts. -/
def database (firm : StoredFirm) (cases : List (Record α)) (others : List (Record (ClientFields γ)))
    (hnodup : (others.map Record.id).Nodup)
    (hothers : ∀ record ∈ others, ForeignClient firm.toFirm record) : Database α γ where
  cases := cases
  clients := others ++ defaultClients firm.toFirm
  tenants_clients := rfl
  decryptCase _ fields := fields
  decryptClient _ _ fields := .ok fields
  tenants := {
    clients := (others ++ defaultClients firm.toFirm).map tenantClient
    firms := [firm.toFirm]
    client_ids := by
      rw [List.map_map]
      have hids : (others ++ defaultClients firm.toFirm).map (Client.id ∘ tenantClient) =
          others.map Record.id ++ (defaultClients firm.toFirm).map Record.id :=
        List.map_append
      rw [hids, List.nodup_append']
      refine ⟨hnodup, nodup_defaultClients _, fun id hid hid' => ?_⟩
      obtain ⟨record, hmem, rfl⟩ := List.mem_map.mp hid
      obtain ⟨client, hclient, heq⟩ := List.mem_map.mp hid'
      have hnamed := isNamed_iff.mpr (Or.inr (heq ▸ mem_defaultClients hclient))
      exact absurd hnamed (Bool.not_eq_true _ ▸ (hothers record hmem).id)
    firm_ids := List.nodup_singleton _
    slugs := List.nodup_singleton _
    disjoint := by
      intro f hf client hclient
      rw [List.mem_singleton.mp hf]
      obtain ⟨record, hmem, rfl⟩ := List.mem_map.mp hclient
      rcases List.mem_append.mp hmem with hother | hdefault
      · intro heq
        have hnamed := isNamed_iff.mpr (Or.inl heq.symm)
        exact absurd hnamed (Bool.not_eq_true _ ▸ (hothers record hother).id)
      · exact (firm.default_ne _ (mem_defaultClients hdefault)).2
    ids_ne := by
      intro f hf
      rw [List.mem_singleton.mp hf]
      exact ⟨firm.id_ne, firm.slug_ne⟩
    client_ids_ne := by
      intro client hclient
      obtain ⟨record, hmem, rfl⟩ := List.mem_map.mp hclient
      rcases List.mem_append.mp hmem with hother | hdefault
      · exact (hothers record hother).id_ne
      · exact (firm.default_ne _ (mem_defaultClients hdefault)).1
    default := by
      intro f hf id hid
      rw [List.mem_singleton.mp hf] at hid ⊢
      refine ⟨_, List.mem_map_of_mem (List.mem_append_right _ (List.mem_map_of_mem
        (Option.mem_toList.mpr hid))), rfl, rfl, rfl, rfl⟩ }

variable {firm : StoredFirm}

/-- Databases whose other documents are of other firms agree on the firm. -/
theorem database_agree {cases cases' : List (Record α)}
    {others others' : List (Record (ClientFields γ))} {hnodup hothers hnodup' hothers'}
    (hcases : ∀ record ∈ cases, owns firm.toFirm record = false)
    (hcases' : ∀ record ∈ cases', owns firm.toFirm record = false) :
    Agree firm.toFirm (database firm cases others hnodup hothers)
      (database firm cases' others' hnodup' hothers') := by
  have hnone : ∀ {β : Type} {docs : List (Record β)},
      (∀ record ∈ docs, owns firm.toFirm record = false) → docs.filter (owns firm.toFirm) = [] :=
    fun h => List.filter_eq_nil_iff.mpr fun record hmem => Bool.not_eq_true _ ▸ h record hmem
  refine ⟨List.mem_singleton_self _, List.mem_singleton_self _, ?_, ?_, fun _ _ => rfl,
    fun _ _ _ => rfl⟩
  · exact (hnone hcases).trans (hnone hcases').symm
  · have hclients := hnone fun record hmem => (hothers record hmem).firmId
    have hclients' := hnone fun record hmem => (hothers' record hmem).firmId
    change (others ++ _).filter _ = (others' ++ _).filter _
    rw [List.filter_append, List.filter_append, hclients, hclients']

theorem excludes_cases_of_readsStay {role : Option String} {caseQuery : Query α}
    {clientQuery : Query (ClientFields γ)}
    (h : ReadsStay firm.toFirm role caseQuery clientQuery) :
    Refused caseQuery ∨ Excludes caseQuery (ForeignCase firm.toFirm) := by
  by_contra hnot
  obtain ⟨hrefused, hexcludes⟩ := not_or.mp hnot
  obtain ⟨record, hforeign, hfinds, hscoped⟩ := exists_of_not_excludes hexcludes
  let without : Database α γ := database firm [] [] List.nodup_nil (fun _ h => nomatch h)
  let withRecord : Database α γ := database firm [record] [] List.nodup_nil (fun _ h => nomatch h)
  have hagree : Agree firm.toFirm without withRecord :=
    database_agree (fun _ h => nomatch h) (fun _ h => List.mem_singleton.mp h ▸ hforeign)
  have hcount := (h without withRecord hagree firm.id isNamed_self
    ⟨none, none, none, none, none⟩).caseCount
  rw [count_eq without hrefused hscoped, count_eq withRecord hrefused hscoped] at hcount
  -- `count` is what tells the databases apart, since neither role nor `caseNumber` stops it.
  have hone : [record].filter caseQuery.finds = [record] := by
    rw [List.filter_cons_of_pos hfinds, List.filter_nil]
  have hlength := Except.ok.inj hcount
  change 0 = ([record].filter caseQuery.finds).length at hlength
  rw [hone] at hlength
  cases hlength

/-- Without options, and without keys, a caller of the firm gets all clients that the query finds. -/
theorem find_database {cases : List (Record α)} {others : List (Record (ClientFields γ))}
    {hnodup hothers} {role : Option String} (hguard : guardSuperadmin role = .ok ())
    {query : Query (ClientFields γ)} (hrefused : ¬ Refused query)
    (hscoped : ∀ firmId, query.scoped firmId = query) :
    ClientRepository.find (database firm cases others hnodup hothers) firm.id query role
        ⟨none, none, none, none, none⟩ =
      .ok (((others ++ defaultClients firm.toFirm).filter query.finds).map
        fun doc : Record (ClientFields γ) =>
          ⟨doc.id, some doc.firmId, doc.deletedAt, doc.fields⟩) := by
  have hmem : firm.toFirm ∈ (database firm cases others hnodup hothers).tenants.firms :=
    List.mem_singleton_self _
  have hagree : Agree firm.toFirm (database firm cases others hnodup hothers)
      (database firm cases others hnodup hothers) :=
    ⟨hmem, hmem, rfl, rfl, fun _ _ => rfl, fun _ _ _ => rfl⟩
  obtain ⟨owner, -, howner, -⟩ := resolveOwnershipFirmId_congr hagree isNamed_self
  rw [ClientRepository.find, howner, ok_bind, hguard, ok_bind, hscoped,
    modelFind_of_accepted hrefused, ok_bind]
  have hdecrypt : ∀ doc : Found γ,
      decryptClientDoc (database firm cases others hnodup hothers) firm.id
        ⟨none, none, none, none, none⟩ doc = pure doc := by
    intro doc
    unfold decryptClientDoc
    split <;> rfl
  rw [mapM_congr fun doc _ => hdecrypt doc]
  exact List.mapM_pure.trans (congrArg pure (List.map_id _))

theorem excludes_clients_of_readsStay {role : Option String} {caseQuery : Query α}
    {clientQuery : Query (ClientFields γ)}
    (h : ReadsStay firm.toFirm role caseQuery clientQuery)
    (hguard : guardSuperadmin role = .ok ()) :
    Refused clientQuery ∨ Excludes clientQuery (ForeignClient firm.toFirm) := by
  by_contra hnot
  obtain ⟨hrefused, hexcludes⟩ := not_or.mp hnot
  obtain ⟨record, hforeign, hfinds, hscoped⟩ := exists_of_not_excludes hexcludes
  let without : Database α γ := database firm [] [] List.nodup_nil (fun _ h => nomatch h)
  let withRecord : Database α γ := database firm [] [record] (List.nodup_singleton _)
    (fun _ h => List.mem_singleton.mp h ▸ hforeign)
  have hagree : Agree firm.toFirm without withRecord :=
    database_agree (fun _ h => nomatch h) (fun _ h => nomatch h)
  have hfind := (h without withRecord hagree firm.id isNamed_self
    ⟨none, none, none, none, none⟩).clientFind
  rw [find_database hguard hrefused hscoped, find_database hguard hrefused hscoped] at hfind
  -- One client more is found in the second database.
  have hlength := congrArg List.length (Except.ok.inj hfind)
  rw [List.length_map, List.length_map, List.nil_append, List.singleton_append,
    List.filter_cons_of_pos hfinds, List.length_cons] at hlength
  omega

/-- **The reads of a firm's caller depend on the firm's documents only, exactly when the query for
cases is refused or excludes the cases of other firms, and so is the one for clients, or the role of
the caller is refused.** -/
theorem reads_stay_iff (firm : StoredFirm) (role : Option String) (caseQuery : Query α)
    (clientQuery : Query (ClientFields γ)) :
    ReadsStay firm.toFirm role caseQuery clientQuery ↔
      (Refused caseQuery ∨ Excludes caseQuery (ForeignCase firm.toFirm)) ∧
        (guardSuperadmin role = .ok () →
          Refused clientQuery ∨ Excludes clientQuery (ForeignClient firm.toFirm)) := by
  constructor
  · exact fun h => ⟨excludes_cases_of_readsStay h, excludes_clients_of_readsStay h⟩
  · rintro ⟨hcase, hclient⟩ db db' hagree firmId hid options
    exact readsAlike_of_agree hagree hid hcase hclient options

end foreign

/-! ## A `firmId` in the query -/

def acme : StoredFirm where
  id := "firm-1"
  firmId := some "FIRM001"
  defaultClientId := none
  firmSlug := "acme"
  name := some "Acme"
  status := some "active"
  id_ne := by decide
  slug_ne := by decide
  default_ne := fun _ h => nomatch h

def theirs : Record String := ⟨"case-1", "firm-2", none, "GST return"⟩

def withTheirs : Database String Unit :=
  database acme [theirs] [] List.nodup_nil (fun _ h => nomatch h)

/-- `{ firmId: "firm-2" }`. -/
def otherFirm : Query String :=
  ⟨.mk (some [.eq (some "firm-2")]) [] [] [] [], false, false, .falsy, true⟩

/-- `{}`. -/
def allClients : Query (ClientFields Unit) := ⟨.mk none [] [] [] [], false, false, .falsy, true⟩

/-- A caller of one firm reads the case of another. -/
theorem reads_stay_fails :
    CaseRepository.find withTheirs "firm-1" otherFirm (some "Admin") = .ok [theirs] ∧
      ¬ ReadsStay acme.toFirm (some "Admin") otherFirm allClients := by
  have hfinds : otherFirm.finds theirs = true := by decide
  refine ⟨by decide, fun h => ?_⟩
  rcases excludes_cases_of_readsStay h with hrefused | hown | hexcludes
  · rcases hrefused with ⟨hdeleted, -⟩ | hcast
    · cases hdeleted
    · cases hcast
  · cases hown
  · have hnot := hexcludes theirs (by unfold ForeignCase; decide)
    rw [hfinds] at hnot
    cases hnot

end Docketra.RepositoryReads
