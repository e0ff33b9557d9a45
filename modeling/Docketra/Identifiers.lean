import Docketra.Repository

/-!
# Docket identifiers

What a string names among the dockets of a firm. A docket has four identifiers: `_id`,
`caseInternalId`, `caseNumber`, and `caseId`, and four pieces of the source read a string as one of
them, each in its own way:

- `getIdentifierCandidates` of `repositories/CaseRepository.js`, with the queries made of it;
- `isValidObjectId`, `isValidCaseNumberFormat`, and `getCaseNumberCandidates` of
  `utils/caseIdentifier.js`, on which `resolveCaseIdentifier` rests;
- `makeDocketQuery` of `services/docketTransition.service.js`, and its copy in
  `services/docketWorkflow.service.js`.

The object ids, the upper case of text beyond ASCII, and the caseless comparison of the database
are outside the repository. A `Platform` stands for them, and `Platform.Documented` for what the
results use of them.
-/

namespace Docketra.Identifiers

open Checked

/-! ## Reading a string -/

/-- The characters of `[_\s]`. -/
def isSeparator (c : Char) : Bool := c == '_' || isWhitespace c

/-- `.replace(/[_\s]+/g, '-')`, on the list of characters: the last of a run becomes the hyphen. -/
def hyphenate : List Char → List Char
  | [] => []
  | c :: cs =>
    if isSeparator c then
      if cs.head?.any isSeparator then hyphenate cs else '-' :: hyphenate cs
    else c :: hyphenate cs

/-- `String(value).trim().replace(/[_\s]+/g, '-')`. -/
def normalize (value : String) : String := String.ofList (hyphenate (trimList value.toList))

/-- `/[0-9a-fA-F]/`. -/
def isHexDigit (c : Char) : Bool :=
  c.isDigit || ('a' ≤ c && c ≤ 'f') || ('A' ≤ c && c ≤ 'F')

/-- `/^[0-9a-fA-F]{24}$/`. -/
def isHex24 (s : String) : Bool := s.toList.length == 24 && s.toList.all isHexDigit

/-- `/^\d{8}-\d{5}$/`, a date and a sequence number. -/
def isBareNumber (s : String) : Bool :=
  let l := s.toList
  l.length == 14 && (l.take 8).all Char.isDigit && l[8]? == some '-' && (l.drop 9).all Char.isDigit

/-- The two words that a number may follow. -/
inductive NumberPrefix where
  | CASE | DOCKET
  deriving DecidableEq, Repr

def NumberPrefix.value : NumberPrefix → String
  | .CASE => "CASE"
  | .DOCKET => "DOCKET"

/-- `otherPrefix`. -/
def NumberPrefix.other : NumberPrefix → NumberPrefix
  | .CASE => .DOCKET
  | .DOCKET => .CASE

/-- A number after its word. -/
def NumberPrefix.join (p : NumberPrefix) (bare : String) : String := p.value ++ "-" ++ bare

/-- `/^.+$/`: something, and no line terminator. -/
def isLine (s : String) : Bool :=
  !s.toList.isEmpty &&
    s.toList.all fun c => c != '\n' && c != '\r' && c.toNat != 0x2028 && c.toNat != 0x2029

/-- What follows the word and its hyphen, the word in either case. Without the `u` flag, only an
ASCII letter matches an ASCII letter. -/
def stripPrefix (p : NumberPrefix) (s : String) : Option String :=
  let head := (p.value ++ "-").toList
  if (s.toList.take head.length).map Char.toUpper = head then
    some (String.ofList (s.toList.drop head.length))
  else none

/-- The groups of `/^(CASE|DOCKET)-(.+)$/i`, the first one in capitals. -/
def matchPrefix (s : String) : Option (NumberPrefix × String) :=
  (((stripPrefix .CASE s).map fun bare => (NumberPrefix.CASE, bare)).or
    ((stripPrefix .DOCKET s).map fun bare => (NumberPrefix.DOCKET, bare))).filter
      fun groups => isLine groups.2

/-- The three forms of a number, the one that was given first. -/
def prefixedForms (p : NumberPrefix) (bare : String) : List String :=
  [p.join bare, p.other.join bare, bare]

/-- `isValidCaseNumberFormat` of `utils/caseIdentifier.js`. -/
def isValidCaseNumberFormat (id : String) : Bool :=
  (matchPrefix (normalize id)).any (fun groups => isBareNumber groups.2) ||
    isBareNumber (normalize id)

/-- `getIdentifierCandidates` of `repositories/CaseRepository.js`. -/
def getIdentifierCandidates (value : String) : List String :=
  let normalized := normalize value
  if normalized = "" then []
  else if isBareNumber normalized then
    [normalized, NumberPrefix.CASE.join normalized, NumberPrefix.DOCKET.join normalized]
  else
    match matchPrefix normalized with
    | some (p, bare) => if isBareNumber bare then prefixedForms p bare else [normalized]
    | none => [normalized]

/-! ## Outside the repository -/

/-- What the identifiers go through outside the repository. -/
structure Platform (Oid : Type) where
  /-- `String.prototype.toUpperCase`. -/
  toUpperCase : String → String
  /-- Whether the database matches `^candidate$`, escaped and with the flag `i`, on a text. -/
  matchesCaseless : String → String → Bool
  /-- `new ObjectId(s)`, of a string that `ObjectId.isValid` accepts. -/
  newObjectId : String → Option Oid
  /-- `ObjectId.prototype.toString`. -/
  toHexString : Oid → String

def isAscii (s : String) : Bool := s.toList.all fun c => decide (c.toNat < 128)

/-- What the results use of the platform. -/
structure Platform.Documented {Oid : Type} (P : Platform Oid) : Prop where
  toUpperCase_ascii : ∀ s, isAscii s = true → P.toUpperCase s = Docketra.toUpperCase s
  matchesCaseless_ascii : ∀ candidate text, isAscii candidate = true → isAscii text = true →
    (P.matchesCaseless candidate text = true ↔
      Docketra.toUpperCase candidate = Docketra.toUpperCase text)
  isValid_iff : ∀ s, (P.newObjectId s).isSome = isHex24 s
  newObjectId_toHexString : ∀ o, P.newObjectId (P.toHexString o) = some o

theorem isHexDigit_iff {c : Char} : isHexDigit c = true ↔
    (48 ≤ c.toNat ∧ c.toNat ≤ 57) ∨ (97 ≤ c.toNat ∧ c.toNat ≤ 102) ∨
      (65 ≤ c.toNat ∧ c.toNat ≤ 70) := by
  simp only [isHexDigit, Bool.or_eq_true, Bool.and_eq_true, decide_eq_true_eq,
    Char.isDigit_iff_toNat, or_assoc]
  rfl

theorem isHexDigit_toLower (c : Char) : isHexDigit c.toLower = isHexDigit c := by
  rw [Bool.eq_iff_iff, isHexDigit_iff, isHexDigit_iff, toNat_toLower]
  split_ifs <;> omega

/-- Lower-casing changes nothing about the 24 digits. -/
theorem isHex24_toLowerCase (s : String) : isHex24 (toLowerCase s) = isHex24 s := by
  simp only [isHex24, toLowerCase, String.toList_ofList, List.length_map, List.all_map,
    Function.comp_def, isHexDigit_toLower]

/-- An object id as the driver prints it. -/
structure HexId where
  hex : String
  canonical : isHex24 hex = true ∧ toLowerCase hex = hex
  deriving DecidableEq

/-- The platform on ASCII text: letters beyond it are left as they are, and match only
themselves. -/
def asciiPlatform : Platform HexId where
  toUpperCase := Docketra.toUpperCase
  matchesCaseless candidate text := Docketra.toUpperCase candidate == Docketra.toUpperCase text
  newObjectId s :=
    if h : isHex24 s = true then
      some ⟨toLowerCase s, (isHex24_toLowerCase s).trans h, toLowerCase_toLowerCase s⟩
    else none
  toHexString := HexId.hex

theorem asciiPlatform_documented : asciiPlatform.Documented where
  toUpperCase_ascii _ _ := rfl
  matchesCaseless_ascii _ _ _ _ := beq_iff_eq
  isValid_iff s := by
    by_cases h : isHex24 s = true <;> simp [asciiPlatform, h]
  newObjectId_toHexString o := by
    obtain ⟨hex, hdigits, hlower⟩ := o
    simp [asciiPlatform, hdigits, hlower]

/-! ## Dockets and queries -/

/-- The identifiers of a docket, its client, and when it was deleted. -/
structure CaseDocument (Oid : Type) where
  _id : Oid
  caseInternalId : Oid
  caseNumber : String
  caseId : Option String
  clientId : Option String
  deletedAt : Option Date
  deriving DecidableEq, Repr

/-- The dockets of one firm, in the order in which a query meets them. The index on
`caseInternalId` is unique. -/
structure Firm (Oid : Type) where
  cases : List (CaseDocument Oid)
  caseInternalId_unique : (cases.map CaseDocument.caseInternalId).Nodup

variable {Oid : Type} [DecidableEq Oid] (P : Platform Oid)

/-- `Case.findOne({ firmId, ...query })`. The soft-delete plugin leaves out what is deleted. -/
def Firm.findOne (firm : Firm Oid) (query : CaseDocument Oid → Bool) : Option (CaseDocument Oid) :=
  firm.cases.find? fun d => d.deletedAt.isNone && query d

/-- `$or: [{ caseId: { $in } }, { caseNumber: { $in } }]`, the candidates as caseless matchers. -/
def identifierQuery (identifier : String) (d : CaseDocument Oid) : Bool :=
  (getIdentifierCandidates identifier).any fun candidate =>
    d.caseId.any (P.matchesCaseless candidate) || P.matchesCaseless candidate d.caseNumber

/-- `getCaseNumberCandidates` after its normalization, which three files share. -/
def numberForms (normalized : String) : List String :=
  match matchPrefix normalized with
  | some (p, bare) => prefixedForms p bare
  | none => [normalized, NumberPrefix.CASE.join normalized, NumberPrefix.DOCKET.join normalized]

/-- `getCaseNumberCandidates` of the two docket services. -/
def docketCandidates (id : String) : List String :=
  if id = "" then []
  else (id :: numberForms (P.toUpperCase (normalize id))).eraseDups

/-- `makeDocketQuery`. The setters of the two text fields trim the values of a query too. -/
def docketQuery (docketId : String) (d : CaseDocument Oid) : Bool :=
  (docketCandidates P docketId).any (fun candidate =>
    d.caseId = some (trim candidate) || d.caseNumber = trim candidate) ||
  (P.newObjectId docketId).any fun o => d.caseInternalId = o || d._id = o

/-! ## The repository -/

/-- `findByInternalId`. -/
def findByInternalId (firm : Firm Oid) (caseInternalId : String) (role : Role) :
    Except Failure (Option (CaseDocument Oid)) := do
  if caseInternalId = "" then return none
  CaseRepository.guardSuperadmin role
  match P.newObjectId caseInternalId with
  | none => return none
  | some internalId => return firm.findOne fun d => d.caseInternalId = internalId

/-- What `findByCaseNumber` and `findByCaseId` both do. -/
def findByIdentifier (firm : Firm Oid) (identifier : String) (role : Role) :
    Except Failure (Option (CaseDocument Oid)) := do
  if identifier = "" then return none
  CaseRepository.guardSuperadmin role
  return firm.findOne (identifierQuery P identifier)

/-- `findByCaseNumber`. -/
def findByCaseNumber (firm : Firm Oid) (caseNumber : String) (role : Role) :
    Except Failure (Option (CaseDocument Oid)) :=
  findByIdentifier P firm caseNumber role

/-- `findByCaseId`. -/
def findByCaseId (firm : Firm Oid) (caseId : String) (role : Role) :
    Except Failure (Option (CaseDocument Oid)) :=
  findByIdentifier P firm caseId role

/-- What the filter of `updateStatus` selects by the identifier. `updateOne` is no `find`, and the
plugin does not see it. -/
def updateStatusSelects (firm : Firm Oid) (caseId : String) : List (CaseDocument Oid) :=
  firm.cases.filter (identifierQuery P caseId)

/-! ## `utils/caseIdentifier.js` -/

/-- `isValidObjectId`. -/
def isValidObjectId (id : String) : Bool := (P.newObjectId id).isSome && isHex24 id

/-- `getCaseNumberCandidates` of `utils/caseIdentifier.js`. -/
def getCaseNumberCandidates (id : String) : List String :=
  let normalized := P.toUpperCase (normalize id)
  if normalized = "" then [] else numberForms normalized

/-- The loop of `resolveCaseIdentifier` over the candidates. -/
def findFirst (firm : Firm Oid) (role : Role) :
    List String → Except Failure (Option (CaseDocument Oid))
  | [] => return none
  | candidate :: candidates => do
    let byNumber ← findByCaseNumber P firm candidate role
    if byNumber.isSome then return byNumber
    let byId ← findByCaseId P firm candidate role
    if byId.isSome then return byId
    findFirst firm role candidates

/-- The end of both of its lookups. -/
def internalIdOf : Option (CaseDocument Oid) → Except Failure String
  | none => throw (plainError "Case not found")
  | some caseDoc => return P.toHexString caseDoc.caseInternalId

/-- `resolveCaseIdentifier`. -/
def resolveCaseIdentifier (firm : Firm Oid) (identifier : String) (role : Role) :
    Except Failure String := do
  throwIf (identifier = "") (plainError "Case identifier is required")
  if isValidObjectId P identifier then
    internalIdOf P (← findByInternalId P firm identifier role)
  else if isValidCaseNumberFormat identifier then
    internalIdOf P (← findFirst P firm role (getCaseNumberCandidates P identifier))
  else
    throw (plainError ("Invalid case identifier format. Expected ObjectId, CASE-YYYYMMDD-XXXXX, " ++
      "or YYYYMMDD-XXXXX format."))

end Docketra.Identifiers
