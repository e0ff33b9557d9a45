import Docketra.ComplianceStates
import Docketra.FieldEncryption
import Docketra.Lib.Keyed
import Mathlib.Algebra.BigOperators.Group.List.Basic

/-!
# The items of the request checklist

`saveRequestChecklist` and `reviewChecklistItem` of
`controllers/clientRequestChecklist.controller.js`, behind the schemas of their routes
(`schemas/case.routes.schema.js`). A saved item keeps the `id` that the client gives, and an item
without one gets a `randomUUID`. A review goes to the first item with the `id` that it names.

Nothing compares the ids of a list with each other. The items that are saved are found by their ids,
and a review changes its own item only, exactly when the ids differ (`staysAddressable_iff`).

A review spreads the item that Mongoose has read, and the `id` of the new one is the one that the
spread copies, if it does.
-/

namespace Docketra.RequestChecklists

open Checked Runs ComplianceStates
open FieldEncryption (utf16Length)

/-! ## The bodies -/

/-- `z.string().trim().max(max)`. -/
structure TrimmedText (max : ℕ) where
  text : String
  trim_text : trim text = text
  length_le : utf16Length text ≤ max

/-- An id that a body gives, trimmed. It may be empty. -/
abbrev GivenId := {id : String // trim id = id}

/-- A result of `randomUUID`. -/
abbrev UUID := {id : String // trim id = id ∧ id ≠ ""}

/-- An item of the body of `PUT /:caseId/request-checklist`. -/
structure ItemBody where
  id : Option GivenId := none
  title : TrimmedText 200
  title_given : title.text ≠ ""
  description : Option (TrimmedText 1000) := none
  required : Option Bool := none
  dueDate : Option Date := none
  status : Option ItemStatus := none
  reviewerNotes : Option (TrimmedText 1200) := none

/-- What `normalizeChecklistItem` is given of it. -/
def ItemBody.input (item : ItemBody) : ItemInput where
  id := item.id.map Subtype.val
  title := some item.title.text
  description := item.description.map TrimmedText.text
  required := item.required.getD false
  dueDate := item.dueDate
  status := item.status.map ItemStatus.value
  reviewerNotes := item.reviewerNotes.map TrimmedText.text

/-- A request that saves a list of items. -/
structure SaveBody where
  now : Date
  items : List ItemBody
  length_le : items.length ≤ 100
  randomUUID : ℕ → UUID

/-- What `saveRequestChecklist` is given. -/
def SaveBody.request (body : SaveBody) : SaveRequest where
  now := body.now
  items := body.items.map ItemBody.input
  randomUUID idx := (body.randomUUID idx).val

/-- The ids of the items, given or generated. -/
def SaveBody.ids (body : SaveBody) : List String :=
  body.items.mapIdx fun idx item => (item.id.map Subtype.val).getD (body.randomUUID idx).val

/-! ## Reviews -/

/-- An item with another status, and the notes and stamps of a review. -/
def stamped (status : ItemStatus) (reviewerNotes : String) (reviewedAt : Option Date)
    (reviewedByXID : Option String) (item : ChecklistItem) : ChecklistItem :=
  { item with
    status := status
    reviewerNotes := reviewerNotes
    reviewedAt := reviewedAt
    reviewedByXID := reviewedByXID }

section review

-- Whether the spread of an item that Mongoose has read copies the fields of the schema.
variable (copies : Bool)

/-- The item that a review leaves, before its schema is checked. Its id is empty where the spread
copies none. -/
def reviewed (req : ReviewRequest) (status : ItemStatus) (index : ℕ) (item : ChecklistItem) :
    ChecklistItem :=
  let next := ComplianceStates.reviewed toLowerCase req status index item
  { next with id := if copies then next.id else "" }

/-- `reviewChecklistItem`, for an identifier that names the docket. -/
def reviewChecklistItem (req : ReviewRequest) (docket : ComplianceDocket) :
    Except Failure ComplianceDocket :=
  match docket.checklist.findIdx? fun item => item.id = req.itemId with
  | none => .error (errorWith 404 "Checklist item not found")
  | some index =>
    match reviewStatusOf toLowerCase req.status with
    | none => .error (errorWith 400 "Invalid status transition")
    | some status =>
      saveChecklist req.now
        (docket.checklist.modify index (reviewed copies req status index)) docket

/-- The docket that is stored after a review. -/
def step (req : ReviewRequest) (docket : ComplianceDocket) : ComplianceDocket :=
  settle (reviewChecklistItem copies req docket) docket

/-! ## What the items owe -/

/-- Each item is found by its id. -/
structure Addressable (checklist : List ChecklistItem) : Prop where
  id_given : ∀ item ∈ checklist, item.id ≠ ""
  nodup : (checklist.map ChecklistItem.id).Nodup

/-- An accepted review changes the status, the notes and the stamps of each item that it is for, and
no other item. -/
def Framed (req : ReviewRequest) (docket : ComplianceDocket) : Prop :=
  ∀ (t : ComplianceDocket) (i : ℕ) (item : ChecklistItem),
    reviewChecklistItem copies req docket = .ok t →
    docket.checklist[i]? = some item → item.id = req.itemId →
    (∃ status reviewerNotes reviewedByXID, t.checklist[i]? =
      some (stamped status reviewerNotes (some req.now) reviewedByXID item)) ∧
    ∀ j, j ≠ i → t.checklist[j]? = docket.checklist[j]?

/-- What is saved is addressable, and stays so in every run of reviews, each of which is framed. -/
def StaysAddressable (body : SaveBody) (docket : ComplianceDocket) : Prop :=
  ∀ saved, saveRequestChecklist toLowerCase body.request docket = .ok saved →
    Addressable saved.checklist ∧
    ∀ reqs : List ReviewRequest,
      (∀ t ∈ states (step copies) reqs saved, Addressable t.checklist) ∧
      Admits (step copies) (Framed copies) reqs saved

end review

/-! ## The items as they are saved -/

/-- A text has no more characters than code units. -/
theorem length_le_utf16Length (s : String) : s.toList.length ≤ utf16Length s := by
  have hunits : ∀ n ∈ s.toList.map fun c => if c.toNat < 0x10000 then 1 else 2, 1 ≤ n := by
    intro n hn
    obtain ⟨c, -, rfl⟩ := List.mem_map.1 hn
    split_ifs <;> omega
  rw [utf16Length, ← List.length_map fun c => if c.toNat < 0x10000 then 1 else 2]
  exact List.length_le_sum_of_one_le _ hunits

/-- A text that the schema of the route admits is not cut. -/
theorem TrimmedText.toTrimmedString_text {max : ℕ} (t : TrimmedText max) :
    toTrimmedString (some t.text) max = t.text := by
  have hlength : t.text.toList.length ≤ max := (length_le_utf16Length t.text).trans t.length_le
  rw [toTrimmedString, Option.getD_some, t.trim_text, clip, List.take_of_length_le hlength,
    String.ofList_toList]

/-- An absent text is the empty one. -/
theorem toTrimmedString_empty (max : ℕ) : toTrimmedString (some "") max = "" := by
  rw [toTrimmedString, Option.getD_some, (trim_eq_empty "").2 rfl, clip]
  exact congrArg String.ofList List.take_nil

/-- A text that the schema of the route admits, or its absence, is normalized once. -/
theorem toTrimmedString_idem {max : ℕ} (t : Option (TrimmedText max)) :
    toTrimmedString (some (toTrimmedString (t.map TrimmedText.text) max)) max =
      toTrimmedString (t.map TrimmedText.text) max := by
  cases t with
  | none =>
    have hnone : toTrimmedString none max = "" := toTrimmedString_empty max
    rw [Option.map_none, hnone, toTrimmedString_empty]
  | some t => rw [Option.map_some, t.toTrimmedString_text, t.toTrimmedString_text]

/-- What the normalization of an item leaves as it is, but for what a review writes. -/
def Settled (item : ChecklistItem) : Prop :=
  ∀ index, stamped item.status item.reviewerNotes item.reviewedAt item.reviewedByXID
    (normalizeChecklistItem toLowerCase item.input index) = item

/-- The item that `saveRequestChecklist` saves for one of the body. -/
def SaveBody.item (body : SaveBody) (idx : ℕ) (item : ItemBody) : ChecklistItem :=
  normalizeChecklistItem toLowerCase
    { item.input with id := item.input.id.or (some (body.randomUUID idx).val) } idx

theorem SaveBody.checklist_eq (body : SaveBody) :
    body.request.checklist toLowerCase = body.items.mapIdx body.item := by
  refine List.ext_getElem? fun idx => ?_
  rw [SaveRequest.checklist, SaveBody.request, List.getElem?_mapIdx, List.getElem?_mapIdx,
    List.getElem?_map, Option.map_map]
  rfl

/-- The ids are kept as they are given or generated. -/
theorem SaveBody.map_id_checklist (body : SaveBody) :
    (body.request.checklist toLowerCase).map ChecklistItem.id = body.ids := by
  refine List.ext_getElem? fun idx => ?_
  rw [body.checklist_eq, SaveBody.ids, List.getElem?_map, List.getElem?_mapIdx,
    List.getElem?_mapIdx, Option.map_map]
  refine congrArg (Option.map · body.items[idx]?) (funext fun item => ?_)
  show ((item.id.map Subtype.val).or (some (body.randomUUID idx).val)).getD "" = _
  cases item.id with
  | none => rfl
  | some id => rfl

/-- An item is saved normalized. -/
theorem SaveBody.settled_item (body : SaveBody) (idx : ℕ) (item : ItemBody) :
    Settled (body.item idx item) := by
  intro index
  have htitle : toTrimmedString (some (toTrimmedString (some item.title.text) 200)) 200 =
      toTrimmedString (some item.title.text) 200 := toTrimmedString_idem (some item.title)
  have hdescription := toTrimmedString_idem item.description
  unfold stamped SaveBody.item normalizeChecklistItem ChecklistItem.input ItemBody.input
  simp only [htitle, hdescription, Option.getD_some]
  rfl

/-- The ids of a list are trimmed. -/
theorem SaveBody.trim_item_id (body : SaveBody) (idx : ℕ) (item : ItemBody) :
    trim (body.item idx item).id = (body.item idx item).id := by
  have hid : (body.item idx item).id =
      ((item.id.map Subtype.val).or (some (body.randomUUID idx).val)).getD "" := rfl
  rw [hid]
  cases item.id with
  | none => exact (body.randomUUID idx).property.1
  | some id => exact id.property

/-- The schema of the document asks of a saved item only that its id is not empty. -/
theorem SaveBody.isValid_item (body : SaveBody) (idx : ℕ) (item : ItemBody) :
    (body.item idx item).isValid = true ↔ (body.item idx item).id ≠ "" := by
  have hblank : isBlank (body.item idx item).id = true ↔ (body.item idx item).id = "" := by
    rw [← trim_eq_empty, body.trim_item_id]
  have htitle : (body.item idx item).title ≠ "" := by
    have : (body.item idx item).title = item.title.text := item.title.toTrimmedString_text
    rw [this]
    exact item.title_given
  have horder : 0 ≤ (body.item idx item).sortOrder := Nat.cast_nonneg idx
  simp only [ChecklistItem.isValid, Bool.and_eq_true, Bool.not_eq_true', decide_eq_true_eq,
    htitle, horder, ne_eq, not_false_eq_true, and_true]
  rw [← hblank, Bool.not_eq_true]

/-- A list is valid exactly when none of its ids is empty. -/
theorem SaveBody.checklist_valid_iff (body : SaveBody) :
    (body.request.checklist toLowerCase).all ChecklistItem.isValid = true ↔ "" ∉ body.ids := by
  rw [← body.map_id_checklist, List.all_eq_true, body.checklist_eq, List.mem_map]
  constructor
  · rintro h ⟨item, hitem, hid⟩
    have hvalid := h item hitem
    obtain ⟨idx, hidx, rfl⟩ := List.mem_mapIdx.1 hitem
    exact (body.isValid_item idx _).1 hvalid hid
  · intro h item hitem
    obtain ⟨idx, hidx, rfl⟩ := List.mem_mapIdx.1 hitem
    exact (body.isValid_item idx _).2 fun hid => h ⟨_, hitem, hid⟩

/-- What `saveRequestChecklist` saves, and when. -/
theorem saveRequestChecklist_eq_ok {body : SaveBody} {docket saved : ComplianceDocket}
    (h : saveRequestChecklist toLowerCase body.request docket = .ok saved) :
    "" ∉ body.ids ∧ docket.toDocket.Savable ∧
      saved.checklist = body.request.checklist toLowerCase := by
  obtain ⟨haccepted, rfl⟩ := saveChecklist_eq_ok.1 h
  exact ⟨body.checklist_valid_iff.1 haccepted.valid, haccepted.savable, rfl⟩

/-- A list without empty ids is saved to a docket that can be. -/
theorem SaveBody.exists_saved (body : SaveBody) {docket : ComplianceDocket} (hgiven : "" ∉ body.ids)
    (hsavable : docket.toDocket.Savable) :
    ∃ saved, saveRequestChecklist toLowerCase body.request docket = .ok saved :=
  ⟨_, saveChecklist_eq_ok.2 ⟨⟨body.checklist_valid_iff.2 hgiven, hsavable⟩, rfl⟩⟩

/-! ## What a review changes -/

/-- A second stamp replaces the first. -/
theorem stamped_stamped (status status' : ItemStatus) (notes notes' : String)
    (at_ at' : Option Date) (xID xID' : Option String) (item : ChecklistItem) :
    stamped status notes at_ xID (stamped status' notes' at' xID' item) =
      stamped status notes at_ xID item := rfl

/-- The stamps of an item are normalized apart from the rest of it. -/
theorem normalize_stamped (status : ItemStatus) (notes : String) (at_ : Option Date)
    (xID : Option String) (item : ChecklistItem) (index : ℕ) :
    normalizeChecklistItem toLowerCase (stamped status notes at_ xID item).input index =
      stamped (itemStatusOf toLowerCase (some status.value)) (toTrimmedString (some notes) 1200) at_
        (orNull (toUpperCase (toTrimmedString xID 20)))
        (normalizeChecklistItem toLowerCase item.input index) := by
  simp only [normalizeChecklistItem, ChecklistItem.input, stamped, Option.getD_some]

/-- But for the stamps, a settled item is what its normalization is. -/
theorem Settled.stamped_normalize {item : ChecklistItem} (h : Settled item) (status : ItemStatus)
    (notes : String) (at_ : Option Date) (xID : Option String) (index : ℕ) :
    stamped status notes at_ xID (normalizeChecklistItem toLowerCase item.input index) =
      stamped status notes at_ xID item := by
  have hstamped := congrArg (stamped status notes at_ xID) (h index)
  rwa [stamped_stamped] at hstamped

/-- A stamp leaves a settled item settled. -/
theorem Settled.stamp {item : ChecklistItem} (h : Settled item) (status : ItemStatus)
    (notes : String) (at_ : Option Date) (xID : Option String) :
    Settled (stamped status notes at_ xID item) := by
  intro index
  rw [normalize_stamped, stamped_stamped]
  exact h.stamped_normalize status notes at_ xID index

/-- An item that agrees with a settled one but for the stamps is settled. -/
theorem Settled.of_stamped_eq {item other : ChecklistItem} (h : Settled item)
    (hother : ∀ status notes at_ xID,
      stamped status notes at_ xID other = stamped status notes at_ xID item) : Settled other := by
  have heq : other =
      stamped other.status other.reviewerNotes other.reviewedAt other.reviewedByXID item :=
    hother other.status other.reviewerNotes other.reviewedAt other.reviewedByXID
  rw [heq]
  exact h.stamp other.status other.reviewerNotes other.reviewedAt other.reviewedByXID

/-- A word that is a status is the word of that status. -/
theorem itemStatusOf_value (status : ItemStatus) :
    itemStatusOf toLowerCase (some status.value) = status := by
  cases status <;> decide

/-- The notes that a review leaves on an item. -/
def notesAfter (req : ReviewRequest) (index : ℕ) (item : ChecklistItem) : String :=
  req.reviewerNotes.getD (normalizeChecklistItem toLowerCase item.input index).reviewerNotes

/-- A review normalizes an item, stamps it, and normalizes it again. -/
theorem reviewed_eq_normalize (req : ReviewRequest) (status : ItemStatus) (index : ℕ)
    (item : ChecklistItem) :
    ComplianceStates.reviewed toLowerCase req status index item =
      normalizeChecklistItem toLowerCase
        (stamped status (notesAfter req index item) (some req.now) req.xID
          (normalizeChecklistItem toLowerCase item.input index)).input index := by
  unfold ComplianceStates.reviewed notesAfter
  generalize normalizeChecklistItem toLowerCase item.input index = currentItem
  simp only [ChecklistItem.input, stamped]

/-- A review stamps a settled item, and leaves the rest of it. -/
theorem Settled.reviewed_eq {item : ChecklistItem} (h : Settled item) (req : ReviewRequest)
    (status : ItemStatus) (index : ℕ) :
    ComplianceStates.reviewed toLowerCase req status index item =
      stamped status (toTrimmedString (some (notesAfter req index item)) 1200) (some req.now)
        (orNull (toUpperCase (toTrimmedString req.xID 20))) item := by
  -- The item is normalized before it is stamped, and again after it.
  have hcurrent : Settled (normalizeChecklistItem toLowerCase item.input index) :=
    h.of_stamped_eq fun status notes at_ xID => h.stamped_normalize status notes at_ xID index
  rw [reviewed_eq_normalize, normalize_stamped, itemStatusOf_value, hcurrent.stamped_normalize,
    h.stamped_normalize]

/-- Where the spread copies the id, the new item has it. -/
theorem reviewed_true (req : ReviewRequest) (status : ItemStatus) (index : ℕ)
    (item : ChecklistItem) :
    reviewed true req status index item =
      ComplianceStates.reviewed toLowerCase req status index item := by
  unfold reviewed
  generalize ComplianceStates.reviewed toLowerCase req status index item = next
  rfl

/-- Where it does not, the new item has no id, and the save is refused. -/
theorem isValid_reviewed_false (req : ReviewRequest) (status : ItemStatus) (index : ℕ)
    (item : ChecklistItem) : (reviewed false req status index item).isValid = false := by
  unfold reviewed
  generalize ComplianceStates.reviewed toLowerCase req status index item = next
  rfl

/-- So no list with such an item is saved. -/
theorem not_valid_modify {checklist : List ChecklistItem} {index : ℕ}
    (hlt : index < checklist.length) (req : ReviewRequest) (status : ItemStatus) :
    ¬(checklist.modify index (reviewed false req status index)).all ChecklistItem.isValid =
      true := by
  intro hvalid
  have hmem : reviewed false req status index checklist[index] ∈
      checklist.modify index (reviewed false req status index) := by
    refine List.mem_of_getElem? (i := index) ?_
    rw [List.getElem?_modify_eq, List.getElem?_eq_getElem hlt]
    rfl
  have hitem := List.all_eq_true.1 hvalid _ hmem
  rw [isValid_reviewed_false] at hitem
  exact Bool.false_ne_true hitem

/-- An accepted review changes the first item with the id that it names. -/
theorem checklist_of_review {copies : Bool} {req : ReviewRequest} {docket t : ComplianceDocket}
    (h : reviewChecklistItem copies req docket = .ok t) :
    ∃ index status, (docket.checklist.findIdx? fun item => item.id = req.itemId) = some index ∧
      t.checklist = docket.checklist.modify index
        (ComplianceStates.reviewed toLowerCase req status index) := by
  unfold reviewChecklistItem at h
  cases hindex : docket.checklist.findIdx? fun item => item.id = req.itemId with
  | none =>
    rw [hindex] at h
    cases h
  | some index =>
    rw [hindex] at h
    cases hstatus : reviewStatusOf toLowerCase req.status with
    | none =>
      rw [hstatus] at h
      cases h
    | some status =>
      rw [hstatus] at h
      obtain ⟨haccepted, ht⟩ := saveChecklist_eq_ok.1 h
      have hchecklist : t.checklist =
          docket.checklist.modify index (reviewed copies req status index) := by rw [ht]; rfl
      refine ⟨index, status, rfl, ?_⟩
      cases copies with
      | true => rw [hchecklist, funext (reviewed_true req status index)]
      | false =>
        obtain ⟨hlt, -⟩ := List.findIdx?_eq_some_iff_getElem.1 hindex
        exact absurd haccepted.valid (not_valid_modify hlt req status)

theorem getD_input_id (item : ChecklistItem) : item.input.id.getD "" = item.id := rfl

theorem id_stamped (status : ItemStatus) (notes : String) (at_ : Option Date)
    (xID : Option String) (item : ChecklistItem) :
    (stamped status notes at_ xID item).id = item.id := rfl

/-- Normalizing keeps the id of an item. -/
theorem id_normalize (item : ItemInput) (index : ℕ) :
    (normalizeChecklistItem toLowerCase item index).id = item.id.getD "" := by
  rw [normalizeChecklistItem]

/-- A review keeps the id of an item. -/
theorem id_reviewed (req : ReviewRequest) (status : ItemStatus) (index : ℕ)
    (item : ChecklistItem) :
    (ComplianceStates.reviewed toLowerCase req status index item).id = item.id := by
  rw [reviewed_eq_normalize, id_normalize, getD_input_id, id_stamped, id_normalize, getD_input_id]

/-- What every review keeps. -/
structure Kept (docket : ComplianceDocket) : Prop where
  addressable : Addressable docket.checklist
  settled : ∀ item ∈ docket.checklist, Settled item

/-- Where the items are addressable, a review is framed. -/
theorem Kept.framed {docket : ComplianceDocket} (h : Kept docket) (copies : Bool)
    (req : ReviewRequest) : Framed copies req docket := by
  intro t i item hok hitem hid
  obtain ⟨index, status, hindex, hchecklist⟩ := checklist_of_review hok
  -- The ids differ, so the first item with the id is the one at `i`.
  have hfirst := Keyed.findIdx?_of_nodup h.addressable.nodup hitem
  rw [hid] at hfirst
  obtain rfl : index = i := Option.some_inj.1 (hindex.symm.trans hfirst)
  rw [hchecklist]
  constructor
  · have hsettled := h.settled item (List.mem_of_getElem? hitem)
    refine ⟨status, toTrimmedString (some (notesAfter req index item)) 1200,
      orNull (toUpperCase (toTrimmedString req.xID 20)), ?_⟩
    rw [List.getElem?_modify_eq, hitem, ← hsettled.reviewed_eq req status index]
    rfl
  · intro j hj
    exact List.getElem?_modify_ne _ _ hj.symm

/-- A review keeps the items addressable and settled. -/
theorem Kept.step {docket : ComplianceDocket} (h : Kept docket) (copies : Bool)
    (req : ReviewRequest) : Kept (step copies req docket) := by
  refine settle_induction h fun t hok => ?_
  obtain ⟨index, status, -, hchecklist⟩ := checklist_of_review hok
  have hids : t.checklist.map ChecklistItem.id = docket.checklist.map ChecklistItem.id := by
    rw [hchecklist]
    exact Keyed.map_modify_of_key (id_reviewed req status index) index
  refine ⟨⟨?_, ?_⟩, ?_⟩
  · intro item hitem hid
    have hmem : "" ∈ docket.checklist.map ChecklistItem.id := by
      rw [← hids]
      exact List.mem_map.2 ⟨item, hitem, hid⟩
    obtain ⟨old, hold, hempty⟩ := List.mem_map.1 hmem
    exact h.addressable.id_given old hold hempty
  · rw [hids]
    exact h.addressable.nodup
  · intro item hitem
    obtain ⟨j, hj⟩ := List.getElem?_of_mem hitem
    rw [hchecklist, List.getElem?_modify] at hj
    obtain ⟨old, hold, rfl⟩ := Option.map_eq_some_iff.1 hj
    have hsettled := h.settled old (List.mem_of_getElem? hold)
    -- The item at the index is stamped, and the others stay.
    by_cases hindex : index = j
    · rw [if_pos hindex, hsettled.reviewed_eq]
      exact hsettled.stamp _ _ _ _
    · rw [if_neg hindex]
      exact hsettled

/-- A saved list with different ids is addressable and settled. -/
theorem SaveBody.kept_saved (body : SaveBody) {docket saved : ComplianceDocket}
    (hsaved : saveRequestChecklist toLowerCase body.request docket = .ok saved)
    (hids : body.ids.Nodup) : Kept saved := by
  obtain ⟨hgiven, -, hchecklist⟩ := saveRequestChecklist_eq_ok hsaved
  refine ⟨⟨?_, ?_⟩, ?_⟩
  · intro item hitem hid
    rw [hchecklist] at hitem
    rw [← body.map_id_checklist] at hgiven
    exact hgiven (List.mem_map.2 ⟨item, hitem, hid⟩)
  · rw [hchecklist, body.map_id_checklist]
    exact hids
  · intro item hitem
    rw [hchecklist, body.checklist_eq] at hitem
    obtain ⟨idx, hidx, rfl⟩ := List.mem_mapIdx.1 hitem
    exact body.settled_item idx _

/-- The items of a list are found by their ids, and every review of a run changes its own item only,
exactly when the ids of the list, given or generated, are different, or the list is not saved: one
of the ids is empty, or the docket is not savable. -/
theorem staysAddressable_iff (copies : Bool) (body : SaveBody) (docket : ComplianceDocket) :
    StaysAddressable copies body docket ↔
      body.ids.Nodup ∨ "" ∈ body.ids ∨ ¬docket.toDocket.Savable := by
  constructor
  · intro h
    by_contra hcontra
    simp only [not_or, not_not] at hcontra
    obtain ⟨hdup, hgiven, hsavable⟩ := hcontra
    -- The list is saved with its ids, equal ones among them.
    obtain ⟨saved, hsaved⟩ := body.exists_saved hgiven hsavable
    obtain ⟨-, -, hchecklist⟩ := saveRequestChecklist_eq_ok hsaved
    have hnodup := (h saved hsaved).1.nodup
    rw [hchecklist, body.map_id_checklist] at hnodup
    exact hdup hnodup
  · intro h saved hsaved
    obtain ⟨hgiven, hsavable, -⟩ := saveRequestChecklist_eq_ok hsaved
    have hids : body.ids.Nodup := h.resolve_right fun hrefused =>
      hrefused.elim hgiven fun hunsavable => hunsavable hsavable
    have hkept := body.kept_saved hsaved hids
    have hstep : ∀ req t, Kept t → Kept (step copies req t) := fun req t ht => ht.step copies req
    refine ⟨hkept.addressable, fun reqs => ⟨?_, ?_⟩⟩
    · intro t ht
      exact (states_keep hstep reqs saved hkept t ht).addressable
    · exact admits_of_keep hstep (fun req t ht => ht.framed copies req) reqs saved hkept

/-- A list of two items to which the client gives one id. -/
def oneIdTwice : SaveBody where
  now := 1
  items := [
    { id := some ⟨"a", by decide⟩
      title := ⟨"Bank statement", by decide, by decide⟩
      title_given := by decide },
    { id := some ⟨"a", by decide⟩
      title := ⟨"Invoices", by decide, by decide⟩
      title_given := by decide }]
  length_le := by decide
  randomUUID _ := ⟨"0", by decide⟩

/-- The acceptance of the item with that id. -/
def acceptance : ReviewRequest where
  now := 2
  itemId := "a"
  status := some "accepted"

/-- Two items are saved with one id, and a review for it changes the first of them only. -/
theorem staysAddressable_fails :
    ¬StaysAddressable true oneIdTwice {} ∧ ¬StaysAddressable false oneIdTwice {} ∧
      (step true acceptance
        (settle (saveRequestChecklist toLowerCase oneIdTwice.request {}) {})).checklist.map
          (fun item => (item.id, item.title, item.status)) =
        [("a", "Bank statement", .accepted), ("a", "Invoices", .requested)] := by
  have hfails : ∀ copies, ¬StaysAddressable copies oneIdTwice {} := by
    intro copies h
    have hsavable : ({} : ComplianceDocket).toDocket.Savable := by decide
    obtain ⟨saved, hsaved⟩ := oneIdTwice.exists_saved (by decide) hsavable
    obtain ⟨-, -, hchecklist⟩ := saveRequestChecklist_eq_ok hsaved
    have hnodup := (h saved hsaved).1.nodup
    rw [hchecklist, oneIdTwice.map_id_checklist] at hnodup
    exact absurd hnodup (by decide)
  exact ⟨hfails true, hfails false, by decide⟩

end Docketra.RequestChecklists
