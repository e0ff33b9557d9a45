import Docketra.Identifiers
import Mathlib.Data.List.Basic
import Mathlib.Data.List.Nodup

/-!
# Tenant identity

A tenant is a firm, and is named by its default client's id. `services/tenantIdentity.service.js`
resolves a tenant from the id of the firm or of the default client, from a user, and from the firm's
slug. The resolvers agree in a database exactly when the default client of each firm is not deleted,
and is what the firm's slug finds, if that finds a default client at all (`names_alike_iff`). For a
deleted one, the slug's resolver still names the default client, where the others name none.

An ObjectId is a string that is not empty, and `findOne` gives the first match. It hides deleted
clients.
-/

namespace Docketra.TenantIdentity

open Identifiers (isHex24)

structure Client where
  id : String
  firmId : Option String
  isDefaultClient : Bool
  firmSlug : Option String
  businessName : Option String
  status : Option String
  deletedAt : Option ℤ
  deriving DecidableEq, Repr

structure Firm where
  id : String
  firmId : Option String
  defaultClientId : Option String
  firmSlug : String
  name : Option String
  status : Option String
  deriving DecidableEq, Repr

structure User where
  role : String
  firmId : Option String
  defaultClientId : Option String
  deriving DecidableEq, Repr

structure Database where
  clients : List Client
  firms : List Firm

inductive Source where
  | defaultClient
  | legacyFirmToDefaultClient
  | legacyFirmOnly
  | superAdmin
  | userDefaultClient
  | defaultClientSlug
  | legacyFirmSlug
  deriving DecidableEq, Repr

structure Context where
  tenantId : Option String
  defaultClientId : Option String
  ownershipFirmId : Option String
  legacyFirmId : Option String
  firmSlug : Option String
  firmName : Option String
  firmIdString : Option String
  status : Option String
  source : Source
  deriving DecidableEq, Repr

/-- `value || null`. -/
def orNull (value : Option String) : Option String := orElse value none

/-- `Client.findOne` of a default client. -/
def findDefaultClient (db : Database) (wanted : Client → Bool) : Option Client :=
  db.clients.find? fun client => client.isDefaultClient && client.deletedAt.isNone && wanted client

def findFirm (db : Database) (wanted : Firm → Bool) : Option Firm := db.firms.find? wanted

/-- `toIdString(client.firmId) || toIdString(client._id)`. -/
def Client.ownershipFirmId (client : Client) : String := client.firmId.getD client.id

def resolveCanonicalTenantFromFirmId (db : Database) (firmId : Option String) : Option Context :=
  match firmId with
  | none => none
  | some firmId =>
    match findDefaultClient db fun client => client.id == firmId with
    | some client =>
      some {
        tenantId := some client.id
        defaultClientId := some client.id
        ownershipFirmId := some client.ownershipFirmId
        legacyFirmId := none
        firmSlug := orNull client.firmSlug
        firmName := orNull client.businessName
        firmIdString := none
        status := orNull client.status
        source := .defaultClient }
    | none =>
      match findFirm db fun firm => firm.id == firmId with
      | none => none
      | some firm =>
        match firm.defaultClientId.bind fun id => findDefaultClient db fun c => c.id == id with
        | some client =>
          some {
            tenantId := some client.id
            defaultClientId := some client.id
            ownershipFirmId := some firm.id
            legacyFirmId := some firm.id
            firmSlug := orElse client.firmSlug (orNull firm.firmSlug)
            -- The query does not select the name.
            firmName := none
            firmIdString := none
            status := orElse client.status (orNull firm.status)
            source := .legacyFirmToDefaultClient }
        | none =>
          some {
            tenantId := some firm.id
            defaultClientId := none
            ownershipFirmId := some firm.id
            legacyFirmId := some firm.id
            firmSlug := orNull firm.firmSlug
            firmName := none
            firmIdString := none
            status := orNull firm.status
            source := .legacyFirmOnly }

def isSuperAdmin (user : User) : Bool := toUpperCase user.role == "SUPER_ADMIN"

def resolveCanonicalTenantForUser (db : Database) (user : User) : Option Context :=
  if isSuperAdmin user then
    some {
      tenantId := none
      defaultClientId := none
      ownershipFirmId := none
      legacyFirmId := none
      firmSlug := none
      firmName := none
      firmIdString := none
      status := none
      source := .superAdmin }
  else
    match user.defaultClientId.bind fun id => findDefaultClient db fun c => c.id == id with
    | some client =>
      some {
        tenantId := some client.id
        defaultClientId := some client.id
        ownershipFirmId := some client.ownershipFirmId
        legacyFirmId := user.firmId.filter (· != client.id)
        firmSlug := orNull client.firmSlug
        firmName := none
        firmIdString := none
        status := orNull client.status
        source := .userDefaultClient }
    | none => resolveCanonicalTenantFromFirmId db user.firmId

def resolveTenantBySlug (db : Database) (firmSlug : String) : Option Context :=
  if firmSlug = "" then none
  else
    match findDefaultClient db fun client => client.firmSlug == some firmSlug with
    -- Whether the client is the default client of its firm is not asked.
    | some client =>
      some {
        tenantId := some client.id
        defaultClientId := some client.id
        ownershipFirmId := some client.ownershipFirmId
        legacyFirmId := client.firmId.filter (· != client.id)
        firmSlug := orElse client.firmSlug (some firmSlug)
        firmName := orNull client.businessName
        firmIdString := none
        status := orNull client.status
        source := .defaultClientSlug }
    | none =>
      match findFirm db fun firm => firm.firmSlug == firmSlug with
      | none => none
      | some firm =>
        let canonical := resolveCanonicalTenantFromFirmId db (some firm.id)
        some {
          tenantId := orElse (canonical.bind Context.tenantId) (some firm.id)
          -- A default client that the canonical resolver has not found comes back here.
          defaultClientId :=
            orElse (canonical.bind Context.defaultClientId) (orNull firm.defaultClientId)
          ownershipFirmId := orElse (canonical.bind Context.ownershipFirmId) (some firm.id)
          legacyFirmId := some firm.id
          firmSlug := orElse (canonical.bind Context.firmSlug) (orNull firm.firmSlug)
          firmName := orNull firm.name
          firmIdString := orNull firm.firmId
          status := orElse (canonical.bind Context.status) (orNull firm.status)
          source := (canonical.map Context.source).getD .legacyFirmSlug }

/-- The firm that owns the clients of a tenant, for an id that is an ObjectId, and the id itself for
another. -/
def resolveClientOwnershipFirmId (db : Database) (firmId : String) : Option String :=
  if firmId = "" then none
  else if isHex24 firmId then
    orElse ((resolveCanonicalTenantFromFirmId db (some firmId)).bind Context.ownershipFirmId)
      (some firmId)
  else some firmId

/-! ## What is asked -/

/-- What the resolvers have to agree on. -/
structure Names where
  tenantId : Option String
  defaultClientId : Option String
  ownershipFirmId : Option String
  deriving DecidableEq, Repr

def Context.names (c : Context) : Names := ⟨c.tenantId, c.defaultClientId, c.ownershipFirmId⟩

/-- The default client of a firm, unless it is deleted. -/
def liveDefaultClient (db : Database) (firm : Firm) : Option Client :=
  firm.defaultClientId.bind fun id => findDefaultClient db fun client => client.id == id

/-- The ids and the slugs are unique, no id is both a firm's and a client's, and the default client
of a firm is a default client of this firm, with its slug. -/
structure CoherentDatabase extends Database where
  client_ids : (clients.map Client.id).Nodup
  firm_ids : (firms.map Firm.id).Nodup
  slugs : (firms.map Firm.firmSlug).Nodup
  disjoint : ∀ firm ∈ firms, ∀ client ∈ clients, firm.id ≠ client.id
  ids_ne : ∀ firm ∈ firms, firm.id ≠ "" ∧ firm.firmSlug ≠ ""
  client_ids_ne : ∀ client ∈ clients, client.id ≠ ""
  default : ∀ firm ∈ firms, ∀ id, firm.defaultClientId = some id →
    ∃ client ∈ clients, client.id = id ∧ client.isDefaultClient = true ∧
      client.firmId = some firm.id ∧ client.firmSlug = some firm.firmSlug

/-- A user of the firm, who names no other default client. -/
structure IsUserOf (firm : Firm) (user : User) : Prop where
  role : isSuperAdmin user = false
  firmId : user.firmId = some firm.id
  defaultClientId : user.defaultClientId = none ∨ user.defaultClientId = firm.defaultClientId

/-- Every name of a firm resolves to these, and so do they. -/
structure ResolvesTo (db : Database) (firm : Firm) (names : Names) : Prop where
  firmId : (resolveCanonicalTenantFromFirmId db (some firm.id)).map Context.names = some names
  defaultClient : ∀ client, liveDefaultClient db firm = some client →
    (resolveCanonicalTenantFromFirmId db (some client.id)).map Context.names = some names
  slug : (resolveTenantBySlug db firm.firmSlug).map Context.names = some names
  user : ∀ user, IsUserOf firm user →
    (resolveCanonicalTenantForUser db user).map Context.names = some names
  tenantId : (resolveCanonicalTenantFromFirmId db names.tenantId).map Context.names = some names
  ownershipFirmId :
    (resolveCanonicalTenantFromFirmId db names.ownershipFirmId).map Context.names = some names

/-- All names of each firm resolve alike, and no two firms share a tenant. -/
structure NamesAlike (db : Database) : Prop where
  alike : ∀ firm ∈ db.firms, ∃ names, ResolvesTo db firm names
  apart : ∀ firm ∈ db.firms, ∀ firm' ∈ db.firms, ∀ names names', ResolvesTo db firm names →
    ResolvesTo db firm' names' → names.tenantId = names'.tenantId → firm = firm'

/-- The default client of a firm is not deleted, and the slug finds no other one. -/
structure Unambiguous (db : Database) (firm : Firm) : Prop where
  live : ∀ id, firm.defaultClientId = some id → (liveDefaultClient db firm).isSome
  slug : ∀ client, (findDefaultClient db fun c => c.firmSlug == some firm.firmSlug) = some client →
    firm.defaultClientId = some client.id

/-! ## Names of a firm -/

/-- An element is found by a key that no other element has. -/
theorem find?_eq_some_of_nodup {α κ : Type} [DecidableEq κ] {f : α → κ} {l : List α}
    (h : (l.map f).Nodup) {a : α} (ha : a ∈ l) : (l.find? fun b => f b == f a) = some a := by
  have hsome : (l.find? fun b => f b == f a).isSome :=
    List.find?_isSome.mpr ⟨a, ha, beq_self_eq_true (f a)⟩
  obtain ⟨b, hb⟩ := Option.isSome_iff_exists.mp hsome
  have hkey : f b = f a := by simpa using List.find?_some hb
  have heq := List.inj_on_of_nodup_map h (List.mem_of_find?_eq_some hb) ha hkey
  rw [hb, heq]

/-- What a query for a default client finds. -/
theorem findDefaultClient_some {db : Database} {wanted : Client → Bool} {client : Client}
    (h : findDefaultClient db wanted = some client) :
    client ∈ db.clients ∧ client.isDefaultClient = true ∧ client.deletedAt.isNone = true ∧
      wanted client = true := by
  have hwanted := List.find?_some h
  rw [Bool.and_eq_true, Bool.and_eq_true] at hwanted
  exact ⟨List.mem_of_find?_eq_some h, hwanted.1.1, hwanted.1.2, hwanted.2⟩

/-- The names that the id of a firm resolves to. -/
def canonicalNames (db : Database) (firm : Firm) : Names :=
  match liveDefaultClient db firm with
  | some client => ⟨some client.id, some client.id, some firm.id⟩
  | none => ⟨some firm.id, none, some firm.id⟩

variable {db : CoherentDatabase} {firm : Firm}

theorem findDefaultClient_firm (hfirm : firm ∈ db.firms) :
    findDefaultClient db.toDatabase (fun client => client.id == firm.id) = none := by
  cases h : findDefaultClient db.toDatabase fun client => client.id == firm.id with
  | none => rfl
  | some client =>
    obtain ⟨hmem, -, -, hid⟩ := findDefaultClient_some h
    exact absurd (beq_iff_eq.mp hid).symm (db.disjoint firm hfirm client hmem)

theorem findFirm_id (hfirm : firm ∈ db.firms) :
    findFirm db.toDatabase (fun f => f.id == firm.id) = some firm :=
  find?_eq_some_of_nodup db.firm_ids hfirm

theorem findFirm_slug (hfirm : firm ∈ db.firms) :
    findFirm db.toDatabase (fun f => f.firmSlug == firm.firmSlug) = some firm :=
  find?_eq_some_of_nodup db.slugs hfirm

/-- What a default client that is not deleted has. -/
structure IsDefaultClientOf (db : Database) (firm : Firm) (client : Client) : Prop where
  mem : client ∈ db.clients
  id : firm.defaultClientId = some client.id
  live : client.isDefaultClient = true ∧ client.deletedAt.isNone = true
  firmId : client.firmId = some firm.id
  slug : client.firmSlug = some firm.firmSlug
  found : findDefaultClient db (fun c => c.id == client.id) = some client

theorem isDefaultClientOf_of_live (hfirm : firm ∈ db.firms) {client : Client}
    (h : liveDefaultClient db.toDatabase firm = some client) :
    IsDefaultClientOf db.toDatabase firm client := by
  obtain ⟨id, hid, hfound⟩ := Option.bind_eq_some_iff.mp h
  obtain ⟨hmem, hdefault, hlive, heq⟩ := findDefaultClient_some hfound
  have hclient : client.id = id := beq_iff_eq.mp heq
  obtain ⟨client', hmem', hid', -, hfirmId, hslug⟩ := db.default firm hfirm id hid
  have hsame : client' = client :=
    List.inj_on_of_nodup_map db.client_ids hmem' hmem (hid'.trans hclient.symm)
  subst hsame
  subst hclient
  exact ⟨hmem, hid, ⟨hdefault, hlive⟩, hfirmId, hslug, hfound⟩

theorem canonicalNames_of_live {db : Database} {client : Client}
    (h : liveDefaultClient db firm = some client) :
    canonicalNames db firm = ⟨some client.id, some client.id, some firm.id⟩ := by
  rw [canonicalNames, h]

theorem canonicalNames_of_none {db : Database} (h : liveDefaultClient db firm = none) :
    canonicalNames db firm = ⟨some firm.id, none, some firm.id⟩ := by
  rw [canonicalNames, h]

/-! ## The resolvers -/

theorem resolve_firm (hfirm : firm ∈ db.firms) :
    (resolveCanonicalTenantFromFirmId db.toDatabase (some firm.id)).map Context.names =
      some (canonicalNames db.toDatabase firm) := by
  unfold resolveCanonicalTenantFromFirmId
  simp only [findDefaultClient_firm hfirm, findFirm_id hfirm]
  cases h : liveDefaultClient db.toDatabase firm with
  | none =>
    rw [canonicalNames_of_none h]
    unfold liveDefaultClient at h
    rw [h]
    rfl
  | some client =>
    rw [canonicalNames_of_live h]
    unfold liveDefaultClient at h
    rw [h]
    rfl

theorem ownershipFirmId_eq {client : Client} (h : IsDefaultClientOf db.toDatabase firm client) :
    client.ownershipFirmId = firm.id := by
  rw [Client.ownershipFirmId, h.firmId, Option.getD_some]

theorem resolve_client (hfirm : firm ∈ db.firms) {client : Client}
    (h : liveDefaultClient db.toDatabase firm = some client) :
    (resolveCanonicalTenantFromFirmId db.toDatabase (some client.id)).map Context.names =
      some (canonicalNames db.toDatabase firm) := by
  have hclient := isDefaultClientOf_of_live hfirm h
  unfold resolveCanonicalTenantFromFirmId
  simp only [hclient.found]
  rw [Option.map_some, Context.names, ownershipFirmId_eq hclient, canonicalNames_of_live h]

theorem resolve_user (hfirm : firm ∈ db.firms) {user : User} (h : IsUserOf firm user) :
    (resolveCanonicalTenantForUser db.toDatabase user).map Context.names =
      some (canonicalNames db.toDatabase firm) := by
  unfold resolveCanonicalTenantForUser
  rw [if_neg (by simp [h.role]), h.firmId]
  rcases h.defaultClientId with hnone | hsame
  · rw [hnone]
    exact resolve_firm hfirm
  · rw [hsame]
    cases hlive : liveDefaultClient db.toDatabase firm with
    | none =>
      have hbind := hlive
      unfold liveDefaultClient at hbind
      rw [hbind]
      exact resolve_firm hfirm
    | some client =>
      have hbind := hlive
      unfold liveDefaultClient at hbind
      rw [hbind, canonicalNames_of_live hlive]
      dsimp only [Option.map_some]
      rw [Context.names, ownershipFirmId_eq (isDefaultClientOf_of_live hfirm hlive)]

/-- The tenant and its owner resolve as the firm does. -/
theorem resolve_again (hfirm : firm ∈ db.firms) :
    (resolveCanonicalTenantFromFirmId db.toDatabase
        (canonicalNames db.toDatabase firm).tenantId).map Context.names =
      some (canonicalNames db.toDatabase firm) ∧
    (resolveCanonicalTenantFromFirmId db.toDatabase
        (canonicalNames db.toDatabase firm).ownershipFirmId).map Context.names =
      some (canonicalNames db.toDatabase firm) := by
  cases h : liveDefaultClient db.toDatabase firm with
  | none =>
    have hresolve := resolve_firm hfirm
    rw [canonicalNames_of_none h] at hresolve ⊢
    exact ⟨hresolve, hresolve⟩
  | some client =>
    have hresolve := resolve_firm hfirm
    have hclient := resolve_client hfirm h
    rw [canonicalNames_of_live h] at hresolve hclient ⊢
    exact ⟨hclient, hresolve⟩

/-! ## The slug -/

theorem orElse_of_ne {id : String} (h : id ≠ "") (y : Option String) :
    orElse (some id) y = some id := by
  rw [orElse, if_pos ((truthy_some id).mpr h)]

theorem canonicalNames_some (hfirm : firm ∈ db.firms) :
    ∃ id, id ≠ "" ∧ (canonicalNames db.toDatabase firm).tenantId = some id ∧
      (canonicalNames db.toDatabase firm).ownershipFirmId = some firm.id := by
  cases h : liveDefaultClient db.toDatabase firm with
  | none =>
    rw [canonicalNames_of_none h]
    exact ⟨firm.id, (db.ids_ne firm hfirm).1, rfl, rfl⟩
  | some client =>
    rw [canonicalNames_of_live h]
    have hmem := (isDefaultClientOf_of_live hfirm h).mem
    exact ⟨client.id, db.client_ids_ne client hmem, rfl, rfl⟩

/-- When the slug finds no default client, its resolver names the default client of the firm, deleted
or not. -/
theorem resolve_slug_of_none (hfirm : firm ∈ db.firms)
    (h : findDefaultClient db.toDatabase (fun c => c.firmSlug == some firm.firmSlug) = none) :
    (resolveTenantBySlug db.toDatabase firm.firmSlug).map Context.names =
      some { canonicalNames db.toDatabase firm with
        defaultClientId := orElse (canonicalNames db.toDatabase firm).defaultClientId
          (orNull firm.defaultClientId) } := by
  obtain ⟨hid, hslug⟩ := db.ids_ne firm hfirm
  obtain ⟨id, hne, htenant, howner⟩ := canonicalNames_some hfirm
  obtain ⟨context, hcontext, hnames⟩ := Option.map_eq_some_iff.mp (resolve_firm hfirm)
  rw [← hnames] at htenant howner
  have htenant : context.tenantId = some id := htenant
  have howner : context.ownershipFirmId = some firm.id := howner
  unfold resolveTenantBySlug
  rw [if_neg hslug]
  simp only [h, findFirm_slug hfirm, hcontext, Option.map_some, Option.bind_some]
  rw [← hnames, htenant, howner, orElse_of_ne hne, orElse_of_ne hid]
  simp only [Context.names, htenant, howner]

theorem resolve_slug_of_some (hfirm : firm ∈ db.firms) {client : Client}
    (h : findDefaultClient db.toDatabase (fun c => c.firmSlug == some firm.firmSlug) =
      some client) :
    (resolveTenantBySlug db.toDatabase firm.firmSlug).map Context.names =
      some ⟨some client.id, some client.id, some client.ownershipFirmId⟩ := by
  unfold resolveTenantBySlug
  rw [if_neg (db.ids_ne firm hfirm).2]
  simp only [h]
  rfl

/-- A default client that the slug finds is the firm's own when the two resolve alike. -/
theorem resolve_slug_iff_of_found (hfirm : firm ∈ db.firms) {client : Client}
    (hslug : (findDefaultClient db.toDatabase fun c => c.firmSlug == some firm.firmSlug) =
      some client) :
    (resolveTenantBySlug db.toDatabase firm.firmSlug).map Context.names =
        some (canonicalNames db.toDatabase firm) ↔ Unambiguous db.toDatabase firm := by
  rw [resolve_slug_of_some hfirm hslug, Option.some_inj]
  have hmem := (findDefaultClient_some hslug).1
  cases hlive : liveDefaultClient db.toDatabase firm with
  | none =>
    rw [canonicalNames_of_none hlive]
    refine iff_of_false (fun h => ?_) fun h => ?_
    · -- The firm would be named by its own id, and the slug names a client.
      have hid : client.id = firm.id := Option.some_inj.mp (congrArg Names.tenantId h)
      exact db.disjoint firm hfirm client hmem hid.symm
    · have hsome := h.live client.id (h.slug client hslug)
      rw [hlive] at hsome
      cases hsome
  | some live =>
    have hdefault := isDefaultClientOf_of_live hfirm hlive
    rw [canonicalNames_of_live hlive]
    constructor
    · intro h
      have hid : client.id = live.id := Option.some_inj.mp (congrArg Names.tenantId h)
      refine ⟨fun _ _ => by rw [hlive]; rfl, fun client' hclient' => ?_⟩
      rw [hslug, Option.some_inj] at hclient'
      rw [← hclient', hid]
      exact hdefault.id
    · intro h
      have hid := hdefault.id.symm.trans (h.slug client hslug)
      have hsame : live = client :=
        List.inj_on_of_nodup_map db.client_ids hdefault.mem hmem (Option.some_inj.mp hid)
      rw [← hsame, ownershipFirmId_eq hdefault]

/-- Where the slug finds no default client, only a deleted one resolves in two ways. -/
theorem resolve_slug_iff_of_missing (hfirm : firm ∈ db.firms)
    (hslug : (findDefaultClient db.toDatabase fun c => c.firmSlug == some firm.firmSlug) = none) :
    (resolveTenantBySlug db.toDatabase firm.firmSlug).map Context.names =
        some (canonicalNames db.toDatabase firm) ↔ Unambiguous db.toDatabase firm := by
  have hnoClient : ∀ client,
      (findDefaultClient db.toDatabase fun c => c.firmSlug == some firm.firmSlug) = some client →
        firm.defaultClientId = some client.id := by
    intro client hclient
    rw [hslug] at hclient
    cases hclient
  rw [resolve_slug_of_none hfirm hslug, Option.some_inj]
  cases hlive : liveDefaultClient db.toDatabase firm with
  | some live =>
    have hmem := (isDefaultClientOf_of_live hfirm hlive).mem
    rw [canonicalNames_of_live hlive]
    refine iff_of_true ?_ ⟨fun _ _ => by rw [hlive]; rfl, hnoClient⟩
    rw [orElse_of_ne (db.client_ids_ne live hmem)]
  | none =>
    rw [canonicalNames_of_none hlive]
    cases hid : firm.defaultClientId with
    | none =>
      refine iff_of_true rfl ⟨fun id h => ?_, hnoClient⟩
      rw [hid] at h
      cases h
    | some id =>
      -- The default client is deleted.
      obtain ⟨client, hmem, rfl, -⟩ := db.default firm hfirm id hid
      refine iff_of_false (fun h => ?_) fun h => ?_
      · have hdefault := congrArg Names.defaultClientId h
        have hnull : orNull (some client.id) = some client.id :=
          orElse_of_ne (db.client_ids_ne client hmem) none
        dsimp only at hdefault
        rw [hnull] at hdefault
        cases hdefault
      · have hsome := h.live client.id hid
        rw [hlive] at hsome
        cases hsome

/-- The resolver of the slug agrees with the others exactly when the default client is not deleted,
and the slug finds no other one. -/
theorem resolve_slug_iff (hfirm : firm ∈ db.firms) :
    (resolveTenantBySlug db.toDatabase firm.firmSlug).map Context.names =
        some (canonicalNames db.toDatabase firm) ↔ Unambiguous db.toDatabase firm := by
  cases hslug : findDefaultClient db.toDatabase fun c => c.firmSlug == some firm.firmSlug with
  | some client => exact resolve_slug_iff_of_found hfirm hslug
  | none => exact resolve_slug_iff_of_missing hfirm hslug

/-! ## The result -/

/-- What a firm's names resolve to is what its id resolves to. -/
theorem ResolvesTo.eq_canonicalNames (hfirm : firm ∈ db.firms) {names : Names}
    (h : ResolvesTo db.toDatabase firm names) : names = canonicalNames db.toDatabase firm := by
  have hcanonical := resolve_firm hfirm
  rw [h.firmId] at hcanonical
  exact Option.some_inj.mp hcanonical

theorem resolvesTo_canonicalNames_iff (hfirm : firm ∈ db.firms) :
    ResolvesTo db.toDatabase firm (canonicalNames db.toDatabase firm) ↔
      Unambiguous db.toDatabase firm := by
  constructor
  · intro h
    exact (resolve_slug_iff hfirm).mp h.slug
  · intro h
    obtain ⟨htenant, howner⟩ := resolve_again hfirm
    exact ⟨resolve_firm hfirm, fun _ hlive => resolve_client hfirm hlive,
      (resolve_slug_iff hfirm).mpr h, fun _ huser => resolve_user hfirm huser, htenant, howner⟩

/-- The tenant of a firm is its own id, or that of a client that names it. -/
theorem eq_of_tenantId {firm' : Firm} (hfirm : firm ∈ db.firms) (hfirm' : firm' ∈ db.firms)
    (h : (canonicalNames db.toDatabase firm).tenantId =
      (canonicalNames db.toDatabase firm').tenantId) : firm = firm' := by
  cases hlive : liveDefaultClient db.toDatabase firm with
  | none =>
    cases hlive' : liveDefaultClient db.toDatabase firm' with
    | none =>
      rw [canonicalNames_of_none hlive, canonicalNames_of_none hlive', Option.some_inj] at h
      exact List.inj_on_of_nodup_map db.firm_ids hfirm hfirm' h
    | some client' =>
      rw [canonicalNames_of_none hlive, canonicalNames_of_live hlive', Option.some_inj] at h
      have hmem := (isDefaultClientOf_of_live hfirm' hlive').mem
      exact absurd h (db.disjoint firm hfirm client' hmem)
  | some client =>
    have hclient := isDefaultClientOf_of_live hfirm hlive
    cases hlive' : liveDefaultClient db.toDatabase firm' with
    | none =>
      rw [canonicalNames_of_live hlive, canonicalNames_of_none hlive', Option.some_inj] at h
      exact absurd h.symm (db.disjoint firm' hfirm' client hclient.mem)
    | some client' =>
      have hclient' := isDefaultClientOf_of_live hfirm' hlive'
      rw [canonicalNames_of_live hlive, canonicalNames_of_live hlive', Option.some_inj] at h
      have hsame : client = client' :=
        List.inj_on_of_nodup_map db.client_ids hclient.mem hclient'.mem h
      subst hsame
      have hid := hclient.firmId.symm.trans hclient'.firmId
      exact List.inj_on_of_nodup_map db.firm_ids hfirm hfirm' (Option.some_inj.mp hid)

/-- **All names of each firm resolve alike exactly when the default clients are not deleted, and no
slug finds another firm's default client.** -/
theorem names_alike_iff (db : CoherentDatabase) :
    NamesAlike db.toDatabase ↔ ∀ firm ∈ db.firms, Unambiguous db.toDatabase firm := by
  constructor
  · intro h firm hfirm
    obtain ⟨names, hnames⟩ := h.alike firm hfirm
    have heq := hnames.eq_canonicalNames hfirm
    subst heq
    exact (resolvesTo_canonicalNames_iff hfirm).mp hnames
  · intro h
    refine ⟨fun firm hfirm => ⟨_, (resolvesTo_canonicalNames_iff hfirm).mpr (h firm hfirm)⟩, ?_⟩
    intro firm hfirm firm' hfirm' names names' hnames hnames' htenant
    rw [hnames.eq_canonicalNames hfirm, hnames'.eq_canonicalNames hfirm'] at htenant
    exact eq_of_tenantId hfirm hfirm' htenant

/-! ## A deleted default client -/

def deletedDefault : CoherentDatabase where
  clients := [⟨"client-1", some "firm-1", true, some "acme", some "Acme", some "active", some 0⟩]
  firms := [⟨"firm-1", some "FIRM001", some "client-1", "acme", some "Acme", some "active"⟩]
  client_ids := by decide
  firm_ids := by decide
  slugs := by decide
  disjoint := by decide
  ids_ne := by decide
  client_ids_ne := by decide
  default := by
    intro firm hfirm id hid
    rw [List.mem_singleton] at hfirm
    subst hfirm
    cases hid
    exact ⟨_, List.mem_singleton_self _, rfl, rfl, rfl, rfl⟩

/-- The slug names the deleted default client, and the id of the firm does not. -/
theorem names_alike_fails :
    (resolveTenantBySlug deletedDefault.toDatabase "acme").map Context.names =
        some ⟨some "firm-1", some "client-1", some "firm-1"⟩ ∧
      (resolveCanonicalTenantFromFirmId deletedDefault.toDatabase (some "firm-1")).map
          Context.names = some ⟨some "firm-1", none, some "firm-1"⟩ ∧
      ¬ NamesAlike deletedDefault.toDatabase := by
  refine ⟨by decide, by decide, fun h => ?_⟩
  obtain ⟨names, hnames⟩ := h.alike _ (List.mem_singleton_self _)
  have heq := hnames.firmId.symm.trans
    (show _ = some ⟨some "firm-1", none, some "firm-1"⟩ by decide)
  have hslug := hnames.slug
  rw [heq] at hslug
  revert hslug
  decide

end Docketra.TenantIdentity
