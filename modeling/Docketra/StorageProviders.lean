import Docketra.Lib.Base64
import Docketra.Lib.Calls
import Docketra.Text
import Mathlib.Data.List.AList
import Mathlib.Data.List.Sort

/-!
# Storage providers

The providers of `services/storage/providers`, over what the services behind them store: objects of
a bucket under their keys, and items of Google Drive and OneDrive in folders. `normalizeObjectKey`
puts a key under the prefix of the bucket and leaves it as it is when it is there already
(`normalizeObjectKey_idem`).

A request to Google Drive may fail. The other requests fail where the service refuses them only. The
services give ids that were not given before.
-/

namespace Docketra.StorageProviders

open Base64 Calls

/-- An id that Google Drive or OneDrive gives to an item. -/
structure FileId where
  value : String
  noSlash : '/' ∉ value.toList
  notNull : value ≠ "null"
  notEmpty : value ≠ ""
  deriving DecidableEq

/-- An item of Google Drive or OneDrive. A folder has no content, and an item at the top no
parent. -/
structure Item where
  name : Option String
  parent : Option String
  content : Option Bytes

/-- What the services store for the providers. -/
structure Storage where
  bucket : AList fun _ : String => Bytes
  drive : AList fun _ : FileId => Item
  /-- Whether the next requests to Google Drive fail. -/
  outages : List Bool
  oneDrive : AList fun _ : FileId => Item

/-- How the services choose ids. -/
structure Ids where
  newId : List FileId → FileId
  fresh : ∀ ids, newId ids ∉ ids

/-- A file of a listing. -/
structure ListedFile where
  id : String
  name : Option String
  deriving DecidableEq

/-- The provider that a firm is connected to. -/
inductive Provider where
  | s3 (pathPrefix : String)
  | googleDrive (rootFolderId : Option String)
  | docketraManaged (rootFolderId : String)
  | oneDrive

def unsupportedFeature (provider feature : String) : String :=
  "Storage provider \"" ++ provider ++ "\" does not support feature \"" ++ feature ++ "\""

/-! ## Keys of S3 -/

/-- The characters after the leading slashes. -/
def strip (l : List Char) : List Char := l.dropWhile (· = '/')

def withoutLeadingSlashes (s : String) : String := String.ofList (strip s.toList)

def withoutOuterSlashes (s : String) : String :=
  String.ofList (strip (strip s.toList).reverse).reverse

def keyPrefix (pathPrefix : String) : String :=
  if pathPrefix = "" then "" else withoutOuterSlashes pathPrefix ++ "/"

def startsWith (s t : String) : Bool := t.toList.isPrefixOf s.toList

def isTenantScopedKey (pathPrefix objectKey : String) : Bool :=
  keyPrefix pathPrefix = "" || startsWith objectKey (keyPrefix pathPrefix)

def buildTenantScopedKey (pathPrefix objectKey : String) : String :=
  keyPrefix pathPrefix ++ withoutLeadingSlashes objectKey

/-- `split('/')`. -/
def segments (objectKey : String) : List (List Char) := objectKey.toList.splitOn '/'

/-- `split('/').pop()`. -/
def lastSegment (objectKey : String) : String :=
  String.ofList ((segments objectKey).getLast?.getD [])

def isDots (segment : List Char) : Bool := segment = ['.', '.'] || segment = ['.']

def normalizeObjectKey (pathPrefix objectKey : String) : Except String String :=
  let raw := withoutLeadingSlashes objectKey
  if ((segments raw).filter (· ≠ [])).any isDots then .error "Invalid object key path"
  else .ok (if isTenantScopedKey pathPrefix raw then raw else buildTenantScopedKey pathPrefix raw)

/-- The order of keys in a listing. -/
def keyLe : List Char → List Char → Bool
  | [], _ => true
  | _ :: _, [] => false
  | c :: l, d :: m => c.toNat < d.toNat || (c = d && keyLe l m)

/-- The objects whose keys start with a text. -/
def listObjects (s : Storage) (start : String) : List ListedFile :=
  ((s.bucket.keys.filter (startsWith · start)).insertionSort fun a b => keyLe a.toList b.toList).map
    fun key => ⟨key, some (lastSegment key)⟩

/-- How many objects one answer of S3 lists. -/
def MAX_KEYS : ℕ := 1000

def getObject (key : String) : Call Storage Bytes := do
  let s ← get
  match s.bucket.lookup key with
  | some body => pure body
  | none => throw "The specified key does not exist."

def putObject (key : String) (body : Bytes) : Call Storage Unit :=
  modify fun s => { s with bucket := s.bucket.insert key body }

/-! ## Items of Google Drive and OneDrive -/

def findItem (items : AList fun _ : FileId => Item) (fileId : String) : Option Item :=
  (items.entries.find? fun e => e.1.value = fileId).map Sigma.snd

/-- The items of a folder. -/
def itemsIn (items : AList fun _ : FileId => Item) (folderId : Option String) : List ListedFile :=
  (items.entries.filter fun e => e.2.parent = folderId).map fun e => ⟨e.1.value, e.2.name⟩

/-- How many files one answer of Google Drive lists. -/
def PAGE_SIZE : ℕ := 100

/-- A request to Google Drive. -/
def request : Call Storage Unit := do
  let s ← get
  match s.outages with
  | [] => pure ()
  | fails :: outages =>
    set { s with outages := outages }
    if fails then throw "Google Drive request failed"

section services

variable (ids : Ids)

/-- A new item of Google Drive. -/
def createItem (item : Item) : Call Storage String := do
  let s ← get
  let id := ids.newId s.drive.keys
  set { s with drive := s.drive.insert id item }
  return id.value

/-- `createFolder` of `GoogleDriveProvider`. -/
def createFolder (parentFolderId : Option String) (folderName : String) : Call Storage String := do
  request
  createItem ids ⟨some folderName, parentFolderId, none⟩

/-- `getOrCreateFolder` of `GoogleDriveProvider`. -/
def getOrCreateDriveFolder (parentFolderId : Option String) (folderName : String) :
    Call Storage String := do
  request
  let s ← get
  let found := s.drive.entries.find? fun e =>
    e.2.name = some folderName && e.2.content.isNone &&
      (parentFolderId.isNone || e.2.parent = parentFolderId)
  match found with
  | some e => return e.1.value
  | none => createFolder ids parentFolderId folderName

/-- `uploadFile` of `GoogleDriveProvider`, with its `rootFolderId`. -/
def uploadDriveFile (rootFolderId folderId : Option String) (filename : String) (body : Bytes) :
    Call Storage String := do
  request
  createItem ids ⟨some filename, orElse folderId rootFolderId, some body⟩

/-- `uploadFileStream` of `OneDriveProvider`: a file with the name is replaced. -/
def uploadFileStream (folderId filename : String) (body : Bytes) : Call Storage String := do
  let s ← get
  let parent := if folderId = "root" then none else some folderId
  let id := ((s.oneDrive.entries.find? fun e =>
    e.2.name = some filename && e.2.parent = parent).map Sigma.fst).getD
      (ids.newId s.oneDrive.keys)
  set { s with oneDrive := s.oneDrive.insert id ⟨some filename, parent, some body⟩ }
  return id.value

/-! ## The providers -/

namespace Provider

def providerName : Provider → String
  | s3 _ => "s3"
  | googleDrive _ => "google-drive"
  | docketraManaged _ => "docketra_managed"
  | oneDrive => "onedrive"

def uploadFile (p : Provider) (parentOrPath : Option String) (fileName : String) (body : Bytes) :
    Call Storage String :=
  match p with
  | s3 pathPrefix => do
    let path := (parentOrPath.toList ++ [fileName]).filter (· ≠ "")
    let key ← lift (normalizeObjectKey pathPrefix ("/".intercalate path))
    putObject key body
    return key
  | googleDrive rootFolderId => uploadDriveFile ids rootFolderId parentOrPath fileName body
  | docketraManaged rootFolderId =>
    uploadDriveFile ids (some rootFolderId) parentOrPath fileName body
  | oneDrive => uploadFileStream ids (parentOrPath.getD "root") fileName body

def getOrCreateFolder (p : Provider) (parentFolderId : Option String) (folderName : String) :
    Call Storage String :=
  match p with
  | googleDrive _ => getOrCreateDriveFolder ids parentFolderId folderName
  | docketraManaged rootFolderId =>
    getOrCreateDriveFolder ids (orElse parentFolderId (some rootFolderId)) folderName
  | s3 _ | oneDrive => throw (unsupportedFeature p.providerName "getOrCreateFolder")

end Provider

end services

namespace Provider

def downloadFile (p : Provider) (fileId : String) : Call Storage Bytes :=
  match p with
  | s3 pathPrefix => do
    let key ← lift (normalizeObjectKey pathPrefix fileId)
    getObject key
  | googleDrive _ | docketraManaged _ => do
    request
    match findItem (← get).drive fileId with
    | none => throw ("File not found: " ++ fileId ++ ".")
    | some item =>
      match item.content with
      | none => throw "Only files with binary content can be downloaded."
      | some body => pure body
  | oneDrive => do
    match (findItem (← get).oneDrive fileId).bind Item.content with
    | none => throw "[OneDriveProvider] Graph request failed"
    | some body => pure body

/-- What is stored in the root folder. -/
def rootFiles (p : Provider) (s : Storage) : List ListedFile :=
  match p with
  | s3 pathPrefix => listObjects s (keyPrefix pathPrefix)
  | googleDrive rootFolderId => itemsIn s.drive rootFolderId
  | docketraManaged rootFolderId => itemsIn s.drive (some rootFolderId)
  | oneDrive => itemsIn s.oneDrive none

/-- `listFiles(null)`. A listing is not continued after its first answer. -/
def listFiles (p : Provider) : Call Storage (List ListedFile) :=
  match p with
  | s3 pathPrefix => do
    let start ← lift (normalizeObjectKey pathPrefix "")
    return (listObjects (← get) start).take MAX_KEYS
  | googleDrive _ | docketraManaged _ => do
    request
    return (p.rootFiles (← get)).take PAGE_SIZE
  | oneDrive => do
    -- the folder of the request is the item with the id `null`
    match findItem (← get).oneDrive "null" with
    | none => throw "[OneDriveProvider] Graph request failed"
    | some _ => return itemsIn (← get).oneDrive (some "null")

end Provider

/-! ## Keys under a prefix -/

/-- Nothing, or a text that ends with a slash. -/
def EndsPath (l : List Char) : Prop := l = [] ∨ ∃ q, l = q ++ ['/']

/-- A segment of the path says where it is relative to the one before it. -/
def hasDots (l : List Char) : Bool := ((l.splitOn '/').filter (· ≠ [])).any isDots

theorem hasDots_append (q l : List Char) : hasDots (q ++ '/' :: l) = (hasDots q || hasDots l) := by
  unfold hasDots
  rw [List.splitOn_append_cons_self, List.filter_append, List.any_append]

theorem hasDots_segment {l : List Char} (h : '/' ∉ l) : hasDots l = isDots l := by
  unfold hasDots
  rw [List.splitOn_eq_singleton h]
  cases l with
  | nil => rfl
  | cons c l => exact Bool.or_false _

theorem hasDots_path {l : List Char} (h : EndsPath l) (m : List Char) :
    hasDots (l ++ m) = (hasDots l || hasDots m) := by
  rcases h with rfl | ⟨q, rfl⟩
  · rfl
  · rw [List.append_assoc, List.singleton_append, hasDots_append, hasDots_append]
    have hnil : hasDots [] = false := rfl
    rw [hnil, Bool.or_false]

/-- The characters after the last slash. -/
def lastPart (l : List Char) : List Char := ((l.splitOn '/').getLast?).getD []

theorem toList_lastSegment (s : String) : (lastSegment s).toList = lastPart s.toList :=
  String.toList_ofList

theorem lastPart_cons_slash (l : List Char) : lastPart ('/' :: l) = lastPart l := by
  have hsplit : ('/' :: l).splitOn '/' = [] :: l.splitOn '/' := by
    rw [List.splitOn_cons_eq_if_modifyHead]
    rfl
  unfold lastPart
  rw [hsplit, List.getLast?_cons_of_ne_nil (List.splitOn_ne_nil '/' l)]

theorem lastPart_path {l m : List Char} (hl : EndsPath l) (hm : '/' ∉ m) :
    lastPart (l ++ m) = m := by
  unfold lastPart
  rcases hl with rfl | ⟨q, rfl⟩
  · rw [List.nil_append, List.splitOn_eq_singleton hm]
    rfl
  · rw [List.append_assoc, List.singleton_append, List.splitOn_append_cons_self,
      List.splitOn_eq_singleton hm, List.getLast?_append]
    rfl

/-- A text is a path and its last part. -/
theorem exists_path_lastPart (l : List Char) :
    ∃ q, EndsPath q ∧ l = q ++ lastPart l ∧ '/' ∉ lastPart l := by
  have hsplit : ∃ q m, EndsPath q ∧ l = q ++ m ∧ '/' ∉ m := by
    induction l with
    | nil => exact ⟨[], [], .inl rfl, rfl, List.not_mem_nil⟩
    | cons c l ih =>
      obtain ⟨q, m, hq, rfl, hm⟩ := ih
      rcases hq with rfl | ⟨q, rfl⟩
      · by_cases hc : c = '/'
        · exact ⟨[c], m, .inr ⟨[], by rw [hc]; rfl⟩, rfl, hm⟩
        · refine ⟨[], c :: m, .inl rfl, rfl, fun h => ?_⟩
          rcases List.mem_cons.1 h with h | h
          · exact hc h.symm
          · exact hm h
      · exact ⟨c :: (q ++ ['/']), m, .inr ⟨c :: q, rfl⟩, rfl, hm⟩
  obtain ⟨q, m, hq, rfl, hm⟩ := hsplit
  rw [lastPart_path hq hm]
  exact ⟨q, hq, rfl, hm⟩

theorem strip_of_head {l : List Char} (h : l.head? ≠ some '/') : strip l = l := by
  cases l with
  | nil => rfl
  | cons c l =>
    unfold strip
    rw [List.dropWhile_cons_of_neg]
    intro hc
    exact h (congrArg some (of_decide_eq_true hc))

theorem head_strip (l : List Char) : (strip l).head? ≠ some '/' := by
  induction l with
  | nil => exact nofun
  | cons c l ih =>
    by_cases hc : c = '/'
    · rw [hc]
      exact ih
    · have hself : strip (c :: l) = c :: l := strip_of_head fun h => hc (Option.some.inj h)
      rw [hself]
      exact fun h => hc (Option.some.inj h)

theorem lastPart_strip (l : List Char) : lastPart (strip l) = lastPart l := by
  induction l with
  | nil => rfl
  | cons c l ih =>
    by_cases hc : c = '/'
    · rw [hc, lastPart_cons_slash]
      exact ih
    · have hself : strip (c :: l) = c :: l := strip_of_head fun h => hc (Option.some.inj h)
      rw [hself]

/-- The last part of a text without dots is not dots. -/
theorem isDots_lastPart {l : List Char} (h : hasDots l = false) : isDots (lastPart l) = false := by
  obtain ⟨q, hq, hl, hslash⟩ := exists_path_lastPart l
  rw [hl, hasDots_path hq, Bool.or_eq_false_iff, hasDots_segment hslash] at h
  exact h.2

theorem strip_append {l m : List Char} (hm : m.head? ≠ some '/') :
    strip (l ++ m) = strip l ++ m := by
  induction l with
  | nil => exact strip_of_head hm
  | cons c l ih =>
    by_cases hc : c = '/'
    · rw [hc]
      exact ih
    · have hself : strip (c :: l) = c :: l := strip_of_head fun h => hc (Option.some.inj h)
      rw [hself]
      exact strip_of_head fun h => hc (Option.some.inj h)

theorem endsPath_strip {l : List Char} (h : EndsPath l) : EndsPath (strip l) := by
  rcases h with rfl | ⟨q, rfl⟩
  · exact .inl rfl
  · induction q with
    | nil => exact .inl rfl
    | cons c q ih =>
      by_cases hc : c = '/'
      · rw [hc]
        exact ih
      · have hself : strip (c :: q ++ ['/']) = c :: q ++ ['/'] :=
          strip_of_head fun h => hc (Option.some.inj h)
        rw [hself]
        exact .inr ⟨c :: q, rfl⟩

/-- The prefix of a bucket is empty, or a text that does not start with a slash, and a slash. -/
theorem keyPrefix_shape (pathPrefix : String) :
    (keyPrefix pathPrefix).toList = [] ∨
      ∃ q : List Char, (keyPrefix pathPrefix).toList = q ++ ['/'] ∧ q.head? ≠ some '/' := by
  unfold keyPrefix
  split_ifs with hempty
  · exact .inl rfl
  · refine .inr ⟨(withoutOuterSlashes pathPrefix).toList, String.toList_append, ?_⟩
    unfold withoutOuterSlashes
    rw [String.toList_ofList]
    obtain ⟨tail, htail⟩ : strip (strip pathPrefix.toList).reverse <:+ _ :=
      List.dropWhile_suffix (· = '/')
    have hstrip : strip pathPrefix.toList =
        (strip (strip pathPrefix.toList).reverse).reverse ++ tail.reverse := by
      rw [← List.reverse_append, htail, List.reverse_reverse]
    intro hhead
    refine head_strip pathPrefix.toList ?_
    rw [hstrip, List.head?_append, hhead]
    rfl

/-- The key of a text without leading slashes, under the prefix of a bucket. -/
def under (start raw : List Char) : List Char := if start <+: raw then raw else start ++ raw

theorem start_under (start raw : List Char) : start <+: under start raw := by
  unfold under
  split_ifs with h
  · exact h
  · exact List.prefix_append start raw

theorem startsWith_iff {s t : String} : startsWith s t = true ↔ t.toList <+: s.toList :=
  List.isPrefixOf_iff_prefix

/-- When a key is accepted, and what it becomes. -/
theorem normalizeObjectKey_eq_ok {pathPrefix objectKey key : String} :
    normalizeObjectKey pathPrefix objectKey = .ok key ↔
      hasDots (strip objectKey.toList) = false ∧
        key.toList = under (keyPrefix pathPrefix).toList (strip objectKey.toList) := by
  have hraw : (withoutLeadingSlashes objectKey).toList = strip objectKey.toList :=
    String.toList_ofList
  have hdots : ((segments (withoutLeadingSlashes objectKey)).filter (· ≠ [])).any isDots =
      hasDots (strip objectKey.toList) := by
    unfold segments
    rw [hraw]
    rfl
  have hkey : (if isTenantScopedKey pathPrefix (withoutLeadingSlashes objectKey)
        then withoutLeadingSlashes objectKey
        else buildTenantScopedKey pathPrefix (withoutLeadingSlashes objectKey)).toList =
      under (keyPrefix pathPrefix).toList (strip objectKey.toList) := by
    have hunder : isTenantScopedKey pathPrefix (withoutLeadingSlashes objectKey) = true ↔
        (keyPrefix pathPrefix).toList <+: strip objectKey.toList := by
      unfold isTenantScopedKey
      rw [Bool.or_eq_true, startsWith_iff, hraw, decide_eq_true_iff]
      constructor
      · rintro (hempty | h)
        · rw [hempty]
          exact List.nil_prefix
        · exact h
      · exact .inr
    unfold under
    by_cases h : (keyPrefix pathPrefix).toList <+: strip objectKey.toList
    · rw [if_pos h, if_pos (hunder.2 h), hraw]
    · rw [if_neg h, if_neg fun h' => h (hunder.1 h')]
      unfold buildTenantScopedKey withoutLeadingSlashes
      rw [String.toList_append, String.toList_ofList, String.toList_ofList,
        strip_of_head (head_strip objectKey.toList)]
  unfold normalizeObjectKey
  dsimp only
  rw [hdots]
  constructor
  · intro h
    by_cases hbad : hasDots (strip objectKey.toList) = true
    · rw [if_pos hbad] at h
      cases h
    · rw [if_neg hbad] at h
      exact ⟨Bool.eq_false_iff.2 hbad,
        (congrArg String.toList (Except.ok.inj h)).symm.trans hkey⟩
  · rintro ⟨hgood, hvalue⟩
    rw [if_neg (Bool.eq_false_iff.1 hgood)]
    exact congrArg Except.ok (String.toList_injective (hkey.trans hvalue.symm))

/-- The root folder of a bucket is its prefix. -/
theorem normalizeObjectKey_empty (pathPrefix : String) :
    normalizeObjectKey pathPrefix "" = .ok (keyPrefix pathPrefix) := by
  refine normalizeObjectKey_eq_ok.2 ⟨rfl, ?_⟩
  have hstrip : strip "".toList = [] := rfl
  rw [hstrip]
  unfold under
  split_ifs with h
  · exact List.prefix_nil.1 h
  · exact (List.append_nil _).symm

theorem endsPath_keyPrefix (pathPrefix : String) : EndsPath (keyPrefix pathPrefix).toList := by
  rcases keyPrefix_shape pathPrefix with h | ⟨q, h, -⟩
  · exact .inl h
  · exact .inr ⟨q, h⟩

/-- A name goes directly under the prefix. -/
theorem normalizeObjectKey_name {pathPrefix name : String} (hslash : '/' ∉ name.toList)
    (hdots : isDots name.toList = false) :
    normalizeObjectKey pathPrefix name = .ok (keyPrefix pathPrefix ++ name) := by
  have hhead : name.toList.head? ≠ some '/' := fun h => hslash (List.mem_of_mem_head? h)
  refine normalizeObjectKey_eq_ok.2 ?_
  rw [strip_of_head hhead, hasDots_segment hslash, String.toList_append]
  refine ⟨hdots, ?_⟩
  unfold under
  split_ifs with h
  · rcases endsPath_keyPrefix pathPrefix with hnil | ⟨q, hq⟩
    · rw [hnil]
      rfl
    · rw [hq] at h
      exact absurd (h.subset (List.mem_append_right q List.mem_cons_self)) hslash
  · rfl

/-- The prefix has no dots when a key under it is accepted. -/
theorem hasDots_keyPrefix {pathPrefix objectKey key : String}
    (hstarts : startsWith objectKey (keyPrefix pathPrefix) = true)
    (h : normalizeObjectKey pathPrefix objectKey = .ok key) :
    hasDots (keyPrefix pathPrefix).toList = false := by
  obtain ⟨rest, hrest⟩ := startsWith_iff.1 hstarts
  have hdots := (normalizeObjectKey_eq_ok.1 h).1
  rcases keyPrefix_shape pathPrefix with hnil | ⟨q, hq, hhead⟩
  · rw [hnil]
    rfl
  · cases q with
    | nil => rw [hq]; rfl
    | cons c q =>
      have hstrip : strip (c :: q ++ ['/'] ++ rest) = c :: q ++ ['/'] ++ rest :=
        strip_of_head fun hc => hhead hc
      rw [← hrest, hq, hstrip, hasDots_path (.inr ⟨_, rfl⟩), Bool.or_eq_false_iff] at hdots
      rw [hq]
      exact hdots.1

/-- A key that is under the prefix already is left as it is. -/
theorem normalizeObjectKey_idem {pathPrefix objectKey key : String}
    (hpath : hasDots (keyPrefix pathPrefix).toList = false)
    (h : normalizeObjectKey pathPrefix objectKey = .ok key) :
    normalizeObjectKey pathPrefix key = .ok key := by
  obtain ⟨hdots, hkey⟩ := normalizeObjectKey_eq_ok.1 h
  have hhead := head_strip objectKey.toList
  refine normalizeObjectKey_eq_ok.2 ?_
  generalize hraw : strip objectKey.toList = raw at *
  rcases keyPrefix_shape pathPrefix with hnil | ⟨q, hq, hq'⟩
  · have hself : under [] raw = raw := if_pos List.nil_prefix
    rw [hnil, hself] at hkey
    rw [hnil, hkey, strip_of_head hhead, hself]
    exact ⟨hdots, rfl⟩
  · cases q with
    | nil =>
      have hnot : ¬ ['/'] <+: raw := by
        rintro ⟨rest, rfl⟩
        exact hhead rfl
      rw [hq] at hkey ⊢
      have hunder : under ([] ++ ['/']) raw = '/' :: raw := if_neg hnot
      have hstrip : strip ('/' :: raw) = raw := strip_of_head hhead
      rw [hkey, hunder, hstrip, hunder]
      exact ⟨hdots, rfl⟩
    | cons c q =>
      have hstarts := start_under (keyPrefix pathPrefix).toList raw
      have hstrip : strip key.toList = key.toList := by
        obtain ⟨rest, hrest⟩ := hkey ▸ hstarts
        refine strip_of_head ?_
        rw [← hrest, hq]
        exact fun hc => hq' hc
      rw [hstrip]
      refine ⟨?_, (if_pos (hkey ▸ hstarts)).symm⟩
      rw [hkey]
      unfold under
      split_ifs
      · exact hdots
      · rw [hasDots_path (endsPath_keyPrefix pathPrefix), hpath, hdots]
        rfl

/-- A name after a path that is accepted. -/
theorem normalizeObjectKey_path {pathPrefix objectKey key name : String}
    (h : normalizeObjectKey pathPrefix objectKey = .ok key) (hpath : EndsPath objectKey.toList)
    (hslash : '/' ∉ name.toList) (hdots : isDots name.toList = false) :
    ∃ key', normalizeObjectKey pathPrefix (objectKey ++ name) = .ok key' ∧
      lastSegment key' = name := by
  have hhead : name.toList.head? ≠ some '/' := fun h => hslash (List.mem_of_mem_head? h)
  have hstrip : strip (objectKey ++ name).toList = strip objectKey.toList ++ name.toList := by
    rw [String.toList_append, strip_append hhead]
  have hends := endsPath_strip hpath
  refine ⟨String.ofList (under (keyPrefix pathPrefix).toList (strip (objectKey ++ name).toList)),
    normalizeObjectKey_eq_ok.2 ⟨?_, String.toList_ofList⟩, ?_⟩
  · rw [hstrip, hasDots_path hends, (normalizeObjectKey_eq_ok.1 h).1, hasDots_segment hslash]
    exact hdots
  · refine String.toList_injective ?_
    rw [toList_lastSegment, String.toList_ofList, hstrip]
    unfold under
    split_ifs
    · exact lastPart_path hends hslash
    · rw [← List.append_assoc]
      refine lastPart_path ?_ hslash
      rcases hends with hnil | ⟨q, hq⟩
      · rw [hnil, List.append_nil]
        exact endsPath_keyPrefix pathPrefix
      · rw [hq, ← List.append_assoc]
        exact .inr ⟨_, rfl⟩

end Docketra.StorageProviders
