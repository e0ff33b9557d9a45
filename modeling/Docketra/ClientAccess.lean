import Docketra.IdentifierAgreement

/-!
# Client restrictions

`checkCaseClientAccess` of `middleware/clientAccess.middleware.js`, before the handlers of a docket.
It refuses a docket whose client the user is restricted from. What it looks up is what
`resolveCaseIdentifier` resolves the `:caseId` of the request to, and where that fails it lets the
request through, to a handler that may find a docket by `makeDocketQuery` or `findByCaseId`.

The restrictions are enforced on a string exactly when no handler finds a docket of a restricted
client by it, or the middleware's own lookup finds one (`enforced_iff`). That is so on every string
on which the readings of `IdentifierAgreement` agree (`enforced_of_agree`).
-/

namespace Docketra.ClientAccess

open Checked Identifiers

/-- What the middleware reads of `req.user`. -/
structure User where
  role : Role
  restrictedClientIds : Option (List String)
  deriving DecidableEq, Repr

/-- What the middleware does with a request. -/
inductive Outcome where
  | next
  | respond (statusCode : Nat) (message code : String)
  deriving DecidableEq, Repr

/-- The refusal of a restricted client's docket. -/
def clientAccessRestricted : Outcome :=
  .respond 403 "Access denied: You do not have permission to access cases for this client"
    "CLIENT_ACCESS_RESTRICTED"

variable {Oid : Type}

/-- `user.restrictedClientIds.includes(caseData.clientId)`. -/
def User.restricts (user : User) (caseData : CaseDocument Oid) : Bool :=
  caseData.clientId.any fun clientId => (user.restrictedClientIds.getD []).contains clientId

/-- A user restricted from a docket's client has restrictions. -/
theorem User.ne_nil_of_restricts {user : User} {d : CaseDocument Oid}
    (h : user.restricts d = true) : user.restrictedClientIds.getD [] ≠ [] := by
  intro hnil
  rw [User.restricts, hnil] at h
  cases hclient : d.clientId <;> simp [hclient] at h

variable [DecidableEq Oid] (P : Platform Oid)

/-- The docket that the middleware looks up. -/
def lookup (firm : Firm Oid) (user : User) (caseId : String) :
    Except Failure (Option (CaseDocument Oid)) := do
  let internalId ← resolveCaseIdentifier P firm caseId user.role
  findByInternalId P firm internalId user.role

/-- `checkCaseClientAccess`. -/
def checkCaseClientAccess (firm : Firm Oid) (user : User) (caseId : String) : Outcome :=
  if caseId = "" then .next
  else if user.restrictedClientIds.getD [] = [] then .next
  else
    match lookup P firm user caseId with
    -- A failure is left to the controller, and so is a docket that is not there.
    | .error _ => .next
    | .ok none => .next
    | .ok (some caseData) => if user.restricts caseData then clientAccessRestricted else .next

/-! ## What the middleware refuses -/

variable {P}

/-- The two lookups of the middleware come to the docket that the resolver looks for. -/
theorem lookup_eq_ok (hP : P.Documented) {firm : Firm Oid} {user : User} {s : String}
    {d : CaseDocument Oid} :
    lookup P firm user s = .ok (some d) ↔
      user.role ≠ .SUPER_ADMIN ∧ resolvedCase P firm s = some d := by
  have hprint : ∀ o, P.toHexString o ≠ "" := by
    intro o heq
    have := hP.newObjectId_toHexString o
    rw [heq, newObjectId_empty hP] at this
    exact absurd this (by simp)
  have hsecond : ∀ e, resolvedCase P firm s = some e → user.role ≠ .SUPER_ADMIN →
      findByInternalId P firm (P.toHexString e.caseInternalId) user.role = .ok (some e) := by
    intro e he hrole
    obtain ⟨hmem, hlive⟩ := mem_of_resolvedCase he
    exact (findByInternalId_eq_ok (hprint _) (hP.newObjectId_toHexString _)).mpr
      ⟨hrole, findOne_caseInternalId hmem hlive⟩
  simp only [lookup, bind_eq_ok, resolveCaseIdentifier_eq_ok hP]
  constructor
  · rintro ⟨_, ⟨hrole, e, he, rfl⟩, hfound⟩
    rw [hsecond e he hrole] at hfound
    exact ⟨hrole, Option.some_inj.mp (Except.ok.inj hfound) ▸ he⟩
  · rintro ⟨hrole, hd⟩
    exact ⟨_, ⟨hrole, d, hd, rfl⟩, hsecond d hd hrole⟩

/-- When the middleware refuses. -/
theorem checkCaseClientAccess_eq_restricted (hP : P.Documented) {firm : Firm Oid} {user : User}
    {s : String} :
    checkCaseClientAccess P firm user s = clientAccessRestricted ↔
      user.role ≠ .SUPER_ADMIN ∧ ∃ d, resolvedCase P firm s = some d ∧ user.restricts d = true := by
  have hnext : Outcome.next ≠ clientAccessRestricted := Outcome.noConfusion
  constructor
  · intro h
    rw [checkCaseClientAccess] at h
    split_ifs at h with hs hnil
    · exact absurd h hnext
    · exact absurd h hnext
    · cases hlookup : lookup P firm user s with
      | error e => rw [hlookup] at h; exact absurd h hnext
      | ok found =>
        cases found with
        | none => rw [hlookup] at h; exact absurd h hnext
        | some d =>
          rw [hlookup] at h
          dsimp only at h
          split_ifs at h with hrestricts
          · obtain ⟨hrole, hd⟩ := (lookup_eq_ok hP).mp hlookup
            exact ⟨hrole, d, hd, hrestricts⟩
          · exact absurd h hnext
  · rintro ⟨hrole, d, hd, hrestricts⟩
    have hs : s ≠ "" := by
      rintro rfl
      rw [resolvedCase, newObjectId_empty hP] at hd
      exact absurd hd (by simp [show isValidCaseNumberFormat "" = false from by decide])
    rw [checkCaseClientAccess, if_neg hs, if_neg (User.ne_nil_of_restricts hrestricts),
      (lookup_eq_ok hP).mpr ⟨hrole, hd⟩]
    exact if_pos hrestricts

/-! ## What the handlers find -/

variable (P)

/-- A handler finds the docket by the string: by `findByCaseId`, or by `makeDocketQuery`. -/
def HandlerFinds (firm : Firm Oid) (user : User) (caseId : String) (d : CaseDocument Oid) : Prop :=
  findByCaseId P firm caseId user.role = .ok (some d) ∨
    firm.findOne (docketQuery P caseId) = some d

/-- The restrictions hold on the string: where a handler finds a docket of a restricted client by
it, the middleware has refused the request. -/
def Enforced (firm : Firm Oid) (user : User) (caseId : String) : Prop :=
  ∀ d, user.restricts d = true → HandlerFinds P firm user caseId d →
    checkCaseClientAccess P firm user caseId = clientAccessRestricted

/-- The docket that the string names, as a `caseInternalId` when it has 24 hexadecimal digits, and
as a bare, `CASE-`, or `DOCKET-` number otherwise, is of a restricted client. -/
def NamesRestricted (firm : Firm Oid) (user : User) (caseId : String) : Prop :=
  match P.newObjectId caseId with
  | some o => ∃ d ∈ firm.cases, d.deletedAt = none ∧ d.caseInternalId = o ∧ user.restricts d = true
  | none => isValidCaseNumberFormat caseId = true ∧
      (firm.findOne (identifierQuery P caseId)).any user.restricts = true

variable {P}

theorem namesRestricted_iff {firm : Firm Oid} {user : User} {s : String} :
    NamesRestricted P firm user s ↔
      ∃ d, resolvedCase P firm s = some d ∧ user.restricts d = true := by
  rw [NamesRestricted, resolvedCase]
  cases P.newObjectId s with
  | some o =>
    constructor
    · rintro ⟨d, hd, hlive, rfl, hrestricts⟩
      exact ⟨d, findOne_caseInternalId hd hlive, hrestricts⟩
    · rintro ⟨d, hfind, hrestricts⟩
      obtain ⟨hd, hlive, hid⟩ := mem_of_findOne hfind
      exact ⟨d, hd, hlive, of_decide_eq_true hid, hrestricts⟩
  | none =>
    dsimp only
    split_ifs with hformat
    · simp only [hformat, true_and, Option.any_eq_true]
    · simp only [hformat, false_and, reduceCtorEq, exists_false]

/-- The restrictions hold on a string exactly when no handler finds a docket of a restricted
client by it, or the middleware finds one too. -/
theorem enforced_iff (hP : P.Documented) (firm : Firm Oid) (user : User) (caseId : String) :
    Enforced P firm user caseId ↔
      ((∃ d, user.restricts d = true ∧ HandlerFinds P firm user caseId d) →
        user.role ≠ .SUPER_ADMIN ∧ NamesRestricted P firm user caseId) := by
  rw [namesRestricted_iff, ← checkCaseClientAccess_eq_restricted hP]
  constructor
  · rintro h ⟨d, hrestricts, hfinds⟩
    exact h d hrestricts hfinds
  · intro h d hrestricts hfinds
    exact h ⟨d, hrestricts, hfinds⟩

/-- Where the readings of the string agree, the restrictions hold on it. -/
theorem enforced_of_agree (hP : P.Documented) {firm : Firm Oid} {user : User} {caseId : String}
    (h : Agree P firm user.role caseId) : Enforced P firm user caseId := by
  intro d hrestricts hfinds
  have hselected : firm.findOne (docketQuery P caseId) = (docketSelects P firm caseId).head? :=
    List.head?_filter.symm
  rcases h with ⟨e, he, hresolve, hfound, -, hdocket⟩ | ⟨-, hnone, -, hdocket⟩
  · have hde : e = d := by
      rcases hfinds with hfinds | hfinds
      · rw [hfound] at hfinds
        exact Option.some_inj.mp (Except.ok.inj hfinds)
      · rw [hselected, hdocket] at hfinds
        exact Option.some_inj.mp hfinds
    subst hde
    obtain ⟨hrole, a, ha, hid⟩ := (resolveCaseIdentifier_eq_ok hP).mp hresolve
    have hsame : some e.caseInternalId = some a.caseInternalId := by
      rw [← hP.newObjectId_toHexString, hid, hP.newObjectId_toHexString]
    have hea := List.inj_on_of_nodup_map firm.caseInternalId_unique he (mem_of_resolvedCase ha).1
      (Option.some_inj.mp hsame)
    exact (checkCaseClientAccess_eq_restricted hP).mpr ⟨hrole, a, ha, hea ▸ hrestricts⟩
  · rcases hfinds with hfinds | hfinds
    · exact absurd hfinds (hnone d)
    · rw [hselected, hdocket] at hfinds
      exact absurd hfinds (by simp)

/-- A user who may not see the dockets of one client. -/
def restrictedUser : User := { role := .USER, restrictedClientIds := some ["C000222"] }

/-- A docket of that client, under the given number. -/
def clientDocket (caseNumber : String) : CaseDocument HexId where
  _id := firstId
  caseInternalId := firstInternalId
  caseNumber := caseNumber
  caseId := some caseNumber
  clientId := some "C000222"
  deletedAt := none

/-- A firm with that docket only. -/
def oneDocket (caseNumber : String) : Firm HexId where
  cases := [clientDocket caseNumber]
  caseInternalId_unique := List.nodup_singleton _

/-- The restrictions hold on a number, in any spelling of it. -/
theorem enforced_iff_number :
    HandlerFinds asciiPlatform (oneDocket "CASE-20260308-00001") restrictedUser
      " docket_20260308 00001" (clientDocket "CASE-20260308-00001") ∧
    Enforced asciiPlatform (oneDocket "CASE-20260308-00001") restrictedUser
      " docket_20260308 00001" :=
  ⟨Or.inr (by decide),
    (enforced_iff asciiPlatform_documented _ _ _).mpr fun _ =>
      ⟨by decide, by decide, by decide⟩⟩

/-- They do not on the `_id` of a docket, nor on a number after the prefix of a work type: the
middleware resolves neither, and `makeDocketQuery` finds the docket by both. -/
theorem enforced_fails :
    ¬Enforced asciiPlatform (oneDocket "CASE-20260308-00001") restrictedUser
      "65f0c3a2b1d4e5f60718293a" ∧
    ¬Enforced asciiPlatform (oneDocket "CO202603084821") restrictedUser "CO202603084821" := by
  constructor
  · intro h
    exact absurd (h (clientDocket "CASE-20260308-00001") (by decide) (Or.inr (by decide)))
      (by decide)
  · intro h
    exact absurd (h (clientDocket "CO202603084821") (by decide) (Or.inr (by decide)))
      (by decide)

end Docketra.ClientAccess
