import Docketra.FieldEncryption
import Docketra.Lib.FirstOfKey

/-!
# Duplicate clients

`services/clientDuplicateDetector.js` compares the data of a new client with all active clients, of
any firm, and a contact number or an email with the columns as they are stored. So what it reports is
the firm's own, and has every client of the firm with that number or email, exactly when no client of
another firm has the number, the email or a similar name, and each of the firm's own is stored in
clear or has a similar name (`duplicates_found_iff`).

Numbers are exact where JavaScript's are floating-point.
-/

namespace Docketra.ClientDuplicates

open Encryption FieldEncryption FirstOfKey

/-- A client, as it is stored. -/
structure Client where
  firmId : String
  clientId : String
  businessName : Option String
  contact : Document
  isActive : Bool
  deleted : Bool

/-- `clientData`. -/
structure ClientData where
  businessName : Option String
  primaryContactNumber : Option String
  businessEmail : Option String

inductive MatchType where
  | exact | fuzzy
  deriving DecidableEq, Repr

/-- A match. Of its client, the id and the name are reported. -/
structure Match where
  client : Client
  matchedFields : List String
  matchType : MatchType
  similarity : ℕ

structure Result where
  hasDuplicates : Bool
  matchCount : ℕ
  /-- `matches`, the most similar first. -/
  matched : List Match

section detector

variable (L : LowerCase)

/-! ## Similarity -/

/-- The characters of `\w`. -/
def isWordChar (c : Char) : Bool := c.isAlphanum || c = '_'

/-- `.replace(/\s+/g, ' ')`. -/
def collapseSpaces : List Char → List Char
  | [] => []
  | c :: cs =>
    if isWhitespace c then
      if cs.head?.any isWhitespace then collapseSpaces cs else ' ' :: collapseSpaces cs
    else c :: collapseSpaces cs

def normalizeString (str : String) : List Char :=
  collapseSpaces ((trim (L.apply str)).toList.filter fun c => isWordChar c || isWhitespace c)

/-- `matrix[i][j]`, of the first `i` characters of one string and the first `j` of the other, the
last of them first. -/
def matrix : List Char → List Char → ℕ
  | [], ys => ys.length
  | x :: xs, [] => (x :: xs).length
  | x :: xs, y :: ys =>
    let cost := if x = y then 0 else 1
    min (min (matrix xs (y :: ys) + 1) (matrix (x :: xs) ys + 1)) (matrix xs ys + cost)

def levenshteinDistance (str1 str2 : List Char) : ℕ := matrix str1.reverse str2.reverse

/-- `calculateSimilarity`. `Math.round` rounds halves up. -/
def calculateSimilarity (str1 str2 : String) : ℕ :=
  if str1 = "" ∨ str2 = "" then 0
  else
    let normalized1 := normalizeString L str1
    let normalized2 := normalizeString L str2
    if normalized1 = normalized2 then 100
    else
      let maxLength := max normalized1.length normalized2.length
      if maxLength = 0 then 100
      else
        let distance := levenshteinDistance normalized1 normalized2
        (200 * (maxLength - distance) + maxLength) / (2 * maxLength)

/-! ## Detection -/

/-- The documents of `Client.find({ isActive: true })`. -/
def activeClients (clients : List Client) : List Client :=
  clients.filter fun c => c.isActive && !c.deleted

/-- The alternatives of `exactMatchQuery`. -/
def ClientData.alternatives (data : ClientData) : List (Field × String) :=
  ((data.primaryContactNumber.filter fun number => trim number ≠ "").map fun number =>
      (Field.primaryContactNumber, trim number)).toList ++
    ((data.businessEmail.filter fun email => trim email ≠ "").map fun email =>
      (Field.businessEmail, trim (L.apply email))).toList

/-- A client has one of the values in the column of its field. -/
def inColumns (alternatives : List (Field × String)) (c : Client) : Bool :=
  alternatives.any fun a => c.contact a.1 = some a.2

/-- `exactMatches`. -/
def exactMatches (data : ClientData) (clients : List Client) : List Client :=
  if data.alternatives L = [] then []
  else (activeClients clients).filter (inColumns (data.alternatives L))

def exactMatch (data : ClientData) (c : Client) : Match where
  client := c
  matchedFields :=
    (if truthy data.primaryContactNumber &&
        c.contact .primaryContactNumber == data.primaryContactNumber.map trim then
      ["Primary Contact Number"] else []) ++
    (if truthy data.businessEmail &&
        c.contact .businessEmail == data.businessEmail.map (fun email => trim (L.apply email)) then
      ["Email"] else [])
  matchType := .exact
  similarity := 100

/-- `nameSimilarity`, and 0 without names. -/
def nameSimilarity (data : ClientData) (c : Client) : ℕ :=
  match data.businessName, c.businessName with
  | some name, some other => calculateSimilarity L name other
  | _, _ => 0

/-- The name is similar enough. -/
def hasSimilarName (data : ClientData) (c : Client) : Bool := 80 ≤ nameSimilarity L data c

def fuzzyMatch (data : ClientData) (c : Client) : Match where
  client := c
  matchedFields := ["Business Name"]
  matchType := .fuzzy
  similarity := nameSimilarity L data c

/-- The loop over `allClients`. -/
def addFuzzyMatches (data : ClientData) : List Match → List Client → List Match
  | ms, [] => ms
  | ms, c :: cs =>
    if ms.any fun m => m.client.clientId = c.clientId then addFuzzyMatches data ms cs
    else if hasSimilarName L data c then addFuzzyMatches data (ms ++ [fuzzyMatch L data c]) cs
    else addFuzzyMatches data ms cs

def detectDuplicates (data : ClientData) (clients : List Client) : Result :=
  let exact := (exactMatches L data clients).map (exactMatch L data)
  let found :=
    if truthy data.businessName then addFuzzyMatches L data exact (activeClients clients) else exact
  let matched := found.mergeSort fun a b => b.similarity ≤ a.similarity
  { hasDuplicates := 0 < matched.length, matchCount := matched.length, matched }

end detector

/-! ## What is asked -/

section property

variable (C : Crypto) (L : LowerCase) (firm : Firm) (keys : Keys)

/-- The field of a client, decrypted, is the given value but for white space around it and case. -/
def SameField (field : Field) (given : Option String) (c : Client) : Prop :=
  ∃ value stored, given = some value ∧ trim value ≠ "" ∧
    decryptClientField C L firm keys field (c.contact field) = .ok (some stored) ∧
    L.apply (trim stored) = L.apply (trim value)

/-- The client has the given contact number or email. -/
def SameContact (data : ClientData) (c : Client) : Prop :=
  SameField C L firm keys .primaryContactNumber data.primaryContactNumber c ∨
    SameField C L firm keys .businessEmail data.businessEmail c

/-- Only clients of the firm are reported. -/
def WithinFirm (data : ClientData) (clients : List Client) : Prop :=
  ∀ m ∈ (detectDuplicates L data clients).matched, m.client.firmId = firm.firmId

/-- Every active client of the firm with the given number or email is reported. -/
def Complete (data : ClientData) (clients : List Client) : Prop :=
  ∀ c ∈ activeClients clients, c.firmId = firm.firmId → SameContact C L firm keys data c →
    ∃ m ∈ (detectDuplicates L data clients).matched, m.client = c

/-- The duplicates are those of the firm. -/
structure DuplicatesFound (data : ClientData) (clients : List Client) : Prop where
  within : WithinFirm L firm data clients
  complete : Complete C L firm keys data clients

/-! ## What the columns and the names tell -/

/-- The client has the given contact number, trimmed, or the given email, trimmed and in lower case,
as it is stored. -/
def StoredInClear (data : ClientData) (c : Client) : Prop := inColumns (data.alternatives L) c = true

/-- The client has a similar name, and no active client with its id has the number or the email in
clear, or is before it and has a similar name. -/
def FirstByName (data : ClientData) (clients : List Client) (c : Client) : Prop :=
  truthy data.businessName = true ∧ hasSimilarName L data c = true ∧
    (∀ d ∈ activeClients clients, StoredInClear L data d → d.clientId ≠ c.clientId) ∧
    ∃ before after, activeClients clients = before ++ c :: after ∧
      ∀ d ∈ before, hasSimilarName L data d = true → d.clientId ≠ c.clientId

variable {C L firm keys}

theorem mem_exactMatches {data : ClientData} {clients : List Client} {c : Client} :
    c ∈ exactMatches L data clients ↔ c ∈ activeClients clients ∧ StoredInClear L data c := by
  unfold exactMatches StoredInClear
  split_ifs with h
  · rw [h]
    simp [inColumns]
  · exact List.mem_filter

theorem first_iff {data : ClientData} {clients : List Client} {c : Client}
    (hname : truthy data.businessName = true) :
    First Client.clientId (hasSimilarName L data) (exactMatches L data clients)
      (activeClients clients) c ↔ FirstByName L data clients c := by
  unfold First FirstByName
  constructor
  · rintro ⟨hclear, before, after, hsplit, hsimilar, hbefore⟩
    exact ⟨hname, hsimilar, fun d hd hstored => hclear d (mem_exactMatches.mpr ⟨hd, hstored⟩),
      before, after, hsplit, hbefore⟩
  · rintro ⟨-, hsimilar, hclear, before, after, hsplit, hbefore⟩
    refine ⟨fun d hd => ?_, before, after, hsplit, hsimilar, hbefore⟩
    obtain ⟨hactive, hstored⟩ := mem_exactMatches.mp hd
    exact hclear d hactive hstored

/-- The clients of the loop are those that a loop over clients keeps. -/
theorem map_addFuzzyMatches (data : ClientData) (ms : List Match) (clients : List Client) :
    (addFuzzyMatches L data ms clients).map Match.client =
      keep Client.clientId (hasSimilarName L data) (ms.map Match.client) clients := by
  induction clients generalizing ms with
  | nil => rfl
  | cons c cs ih =>
    have hany : (ms.map Match.client).any (fun d => decide (d.clientId = c.clientId)) =
        ms.any fun m => decide (m.client.clientId = c.clientId) := List.any_map
    unfold addFuzzyMatches keep
    rw [hany]
    split_ifs
    · exact ih ms
    · rw [ih, List.map_append]
      rfl
    · exact ih ms

/-- The clients that are reported. -/
theorem mem_detectDuplicates {data : ClientData} {clients : List Client} {c : Client} :
    (∃ m ∈ (detectDuplicates L data clients).matched, m.client = c) ↔
      c ∈ activeClients clients ∧ (StoredInClear L data c ∨ FirstByName L data clients c) := by
  have hexact : ((exactMatches L data clients).map (exactMatch L data)).map Match.client =
      exactMatches L data clients := by
    rw [List.map_map]
    exact List.map_id _
  have hmem : (∃ m ∈ (detectDuplicates L data clients).matched, m.client = c) ↔
      c ∈ exactMatches L data clients ∨ FirstByName L data clients c := by
    unfold detectDuplicates
    dsimp only
    simp only [List.mem_mergeSort]
    rw [← List.mem_map]
    split_ifs with hname
    · rw [map_addFuzzyMatches, hexact, mem_keep_iff, first_iff hname]
    · rw [hexact]
      exact (or_iff_left fun h => hname h.1).symm
  rw [hmem, mem_exactMatches]
  constructor
  · rintro (⟨hactive, hclear⟩ | hfirst)
    · exact ⟨hactive, .inl hclear⟩
    · obtain ⟨-, -, -, before, after, hsplit, -⟩ := id hfirst
      refine ⟨?_, .inr hfirst⟩
      rw [hsplit]
      exact List.mem_append_right _ List.mem_cons_self
  · rintro ⟨hactive, hclear | hfirst⟩
    · exact .inl ⟨hactive, hclear⟩
    · exact .inr hfirst

/-- A column that holds a payload is not found by a text that has not the form of one. -/
theorem not_storedInClear {data : ClientData} {c : Client}
    (hstored : ∀ field value, c.contact field = some value → looksEncrypted value = true)
    (hgiven : ∀ a ∈ data.alternatives L, looksEncrypted a.2 = false) : ¬ StoredInClear L data c := by
  intro h
  obtain ⟨a, ha, hcolumn⟩ := List.any_eq_true.mp h
  have hpayload := hstored a.1 a.2 (of_decide_eq_true hcolumn)
  rw [hgiven a ha] at hpayload
  cases hpayload

/-- **The duplicates that are reported are those of the firm exactly when no active client of another
firm has the number or the email in clear or is the first with a similar name, and each of the firm
with the number or the email has it in clear, or is the first with a similar name.** -/
theorem duplicates_found_iff (C : Crypto) (L : LowerCase) (firm : Firm) (keys : Keys)
    (data : ClientData) (clients : List Client) :
    DuplicatesFound C L firm keys data clients ↔
      (∀ c ∈ activeClients clients, c.firmId ≠ firm.firmId →
        ¬ StoredInClear L data c ∧ ¬ FirstByName L data clients c) ∧
      ∀ c ∈ activeClients clients, c.firmId = firm.firmId → SameContact C L firm keys data c →
        StoredInClear L data c ∨ FirstByName L data clients c := by
  constructor
  · rintro ⟨hwithin, hcomplete⟩
    constructor
    · intro c hc hother
      rw [← not_or]
      intro hfound
      obtain ⟨m, hm, rfl⟩ := mem_detectDuplicates.mpr ⟨hc, hfound⟩
      exact hother (hwithin m hm)
    · intro c hc hown hsame
      exact (mem_detectDuplicates.mp (hcomplete c hc hown hsame)).2
  · rintro ⟨hothers, hown⟩
    constructor
    · intro m hm
      obtain ⟨hc, hfound⟩ := mem_detectDuplicates.mp ⟨m, hm, rfl⟩
      by_contra hother
      exact not_or.mpr (hothers m.client hc hother) hfound
    · intro c hc hfirm hsame
      exact mem_detectDuplicates.mpr ⟨hc, hown c hc hfirm hsame⟩

end property

/-! ## Two firms -/

def asciiLowerCase : LowerCase where
  apply := toLowerCase
  apply_apply := toLowerCase_toLowerCase
  trim_apply := trim_toLowerCase
  length_le s := by
    unfold toLowerCase
    rw [String.length_ofList, List.length_map, String.length_toList]

/-- A client of another firm. -/
def otherClient : Client where
  firmId := "FIRM002"
  clientId := "C000002"
  businessName := some "Acme Traders"
  contact _ := none
  isActive := true
  deleted := false

/-- A client of the firm, whose email was stored without a master key. -/
def ownClient : Client where
  firmId := "FIRM001"
  clientId := "C000003"
  businessName := none
  contact field := if field = .businessEmail then some "Info@Acme.in" else none
  isActive := true
  deleted := false

def acmeData : ClientData where
  businessName := some "Acme Traders"
  primaryContactNumber := none
  businessEmail := some "info@acme.in"

/-- The other firm's client is reported, and the firm's own is not. -/
theorem duplicates_found_fails :
    ¬ WithinFirm asciiLowerCase zeroFirm acmeData [otherClient, ownClient] ∧
      ¬ Complete emptyTextCipher asciiLowerCase zeroFirm zeroKeys acmeData
        [otherClient, ownClient] := by
  have hactive : activeClients [otherClient, ownClient] = [otherClient, ownClient] := rfl
  have hother : ¬ StoredInClear asciiLowerCase acmeData otherClient := by
    unfold StoredInClear
    decide
  have hown : ¬ StoredInClear asciiLowerCase acmeData ownClient := by
    unfold StoredInClear
    decide
  constructor
  · intro h
    have hfirst : FirstByName asciiLowerCase acmeData [otherClient, ownClient] otherClient := by
      refine ⟨by decide, by decide, ?_, [], [ownClient], hactive,
        fun d hd => absurd hd List.not_mem_nil⟩
      intro d hd hstored
      rw [hactive, List.mem_cons, List.mem_singleton] at hd
      rcases hd with rfl | rfl
      · exact absurd hstored hother
      · exact absurd hstored hown
    have hmem : otherClient ∈ activeClients [otherClient, ownClient] := by
      rw [hactive]
      exact List.mem_cons_self
    have hfound : StoredInClear asciiLowerCase acmeData otherClient ∨
        FirstByName asciiLowerCase acmeData [otherClient, ownClient] otherClient :=
      .inr hfirst
    obtain ⟨m, hm, hclient⟩ := mem_detectDuplicates.mpr ⟨hmem, hfound⟩
    have hfirm : m.client.firmId = zeroFirm.firmId := h m hm
    rw [hclient] at hfirm
    exact absurd hfirm (by decide)
  · intro h
    have hplain : decryptClientField emptyTextCipher asciiLowerCase zeroFirm zeroKeys .businessEmail
        (ownClient.contact .businessEmail) = .ok (some "Info@Acme.in") := by
      have hcontact : ownClient.contact .businessEmail = some "Info@Acme.in" := rfl
      have hnotShaped : ¬ looksEncrypted "Info@Acme.in" = true := by decide
      rw [hcontact, decryptClientField]
      exact if_neg hnotShaped
    have hsame : SameContact emptyTextCipher asciiLowerCase zeroFirm zeroKeys acmeData ownClient :=
      .inr ⟨"info@acme.in", "Info@Acme.in", rfl, by decide, hplain, by decide +kernel⟩
    have hmem : ownClient ∈ activeClients [otherClient, ownClient] := by
      rw [hactive]
      exact List.mem_cons_of_mem _ List.mem_cons_self
    have hfound := h ownClient hmem rfl hsame
    rcases (mem_detectDuplicates.mp hfound).2 with hclear | hfirst
    · exact hown hclear
    · exact absurd hfirst.2.1 (by decide)

end Docketra.ClientDuplicates
