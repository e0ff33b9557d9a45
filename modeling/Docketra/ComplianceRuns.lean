import Docketra.ComplianceKeys

/-!
# Runs of the generation

`Round` says all that a round of the loop of `previewOrGenerate` can do, and `generateOne_round`
that it does. From what a round preserves, `exists_progress` has what each item was made from. One
such thing is that the keys which are compared first are stored (`KeysStored`).
-/

namespace Docketra.Compliance

open Calendar

section

variable (isObjectId : String → Bool) (actor : Actor) (fallbackCategory : Option CategoryConfig)
  (execute : Bool)

/-- What the schema finds wrong with the docket of a candidate in a category. -/
def candidateErrors (candidate : Candidate) (ids : ObjectId × String) : List PathError :=
  schemaErrors isObjectId (casePayload actor fallbackCategory candidate ids.1 ids.2)

/-- The outcomes of a round. -/
inductive Round (candidate : Candidate) (s : Progress) : Item → Progress → Prop
  | missing (item : Item) (hcategory : categoryOf candidate.template fallbackCategory = none)
      (hstatus : item.status = .failed) : Round candidate s item s
  | found (item : Item) (ids : ObjectId × String)
      (hcategory : categoryOf candidate.template fallbackCategory = some ids)
      (hfound : candidate.idempotencyKey ∈ s.existingKeys)
      (hstatus : item.status = .skipped_duplicate) : Round candidate s item s
  | ready (item : Item) (ids : ObjectId × String)
      (hcategory : categoryOf candidate.template fallbackCategory = some ids)
      (hfound : candidate.idempotencyKey ∉ s.existingKeys) (hexecute : execute = false)
      (hstatus : item.status = .ready_to_generate) : Round candidate s item s
  | generated (item : Item) (ids : ObjectId × String)
      (hcategory : categoryOf candidate.template fallbackCategory = some ids)
      (hfound : candidate.idempotencyKey ∉ s.existingKeys) (hexecute : execute = true)
      (hvalid : candidateErrors isObjectId actor fallbackCategory candidate ids = [])
      (hfresh : StoredKey.ofKey candidate.idempotencyKey ∉ s.store.keys)
      (hstatus : item.status = .generated) :
      Round candidate s item
        ⟨candidate.idempotencyKey :: s.existingKeys,
          s.store.insert ⟨StoredKey.ofKey candidate.idempotencyKey, some candidate⟩ hfresh⟩
  | duplicate (item : Item) (ids : ObjectId × String)
      (hcategory : categoryOf candidate.template fallbackCategory = some ids)
      (hfound : candidate.idempotencyKey ∉ s.existingKeys) (hexecute : execute = true)
      (hvalid : candidateErrors isObjectId actor fallbackCategory candidate ids = [])
      (hstored : StoredKey.ofKey candidate.idempotencyKey ∈ s.store.keys)
      (hstatus : item.status = .skipped_duplicate) : Round candidate s item s
  | invalid (ids : ObjectId × String)
      (hcategory : categoryOf candidate.template fallbackCategory = some ids)
      (hfound : candidate.idempotencyKey ∉ s.existingKeys) (hexecute : execute = true)
      (hinvalid : candidateErrors isObjectId actor fallbackCategory candidate ids ≠ []) :
      Round candidate s (refusedItem candidate
        (schemaFailure (candidateErrors isObjectId actor fallbackCategory candidate ids))) s

variable {isObjectId actor fallbackCategory} in
/-- A valid docket is saved under a fresh key. -/
theorem saveCase_of_fresh {candidate : Candidate} {ids : ObjectId × String} {store : Store}
    (hvalid : candidateErrors isObjectId actor fallbackCategory candidate ids = [])
    (hfresh : StoredKey.ofKey candidate.idempotencyKey ∉ store.keys) :
    saveCase isObjectId (casePayload actor fallbackCategory candidate ids.1 ids.2) candidate
        store =
      .ok (store.insert ⟨StoredKey.ofKey candidate.idempotencyKey, some candidate⟩ hfresh) := by
  unfold candidateErrors at hvalid
  unfold saveCase
  rw [hvalid]
  exact dif_pos hfresh

variable {isObjectId actor fallbackCategory} in
/-- A valid docket is refused under a key that is stored. -/
theorem saveCase_of_stored {candidate : Candidate} {ids : ObjectId × String} {store : Store}
    (hvalid : candidateErrors isObjectId actor fallbackCategory candidate ids = [])
    (hstored : StoredKey.ofKey candidate.idempotencyKey ∈ store.keys) :
    saveCase isObjectId (casePayload actor fallbackCategory candidate ids.1 ids.2) candidate
      store = .error duplicateKeyError := by
  unfold candidateErrors at hvalid
  unfold saveCase
  rw [hvalid]
  exact dif_neg (not_not.mpr hstored)

variable {isObjectId actor fallbackCategory} in
/-- An invalid docket is refused. -/
theorem saveCase_of_invalid {candidate : Candidate} {ids : ObjectId × String} {store : Store}
    (hinvalid : candidateErrors isObjectId actor fallbackCategory candidate ids ≠ []) :
    saveCase isObjectId (casePayload actor fallbackCategory candidate ids.1 ids.2) candidate
        store =
      .error (schemaFailure (candidateErrors isObjectId actor fallbackCategory candidate ids)) := by
  unfold candidateErrors at hinvalid ⊢
  unfold saveCase
  generalize schemaErrors isObjectId
    (casePayload actor fallbackCategory candidate ids.1 ids.2) = errors at hinvalid
  cases errors with
  | nil => exact absurd rfl hinvalid
  | cons => rfl

/-- A round has one of the outcomes. -/
theorem generateOne_round (candidate : Candidate) (s : Progress) :
    Round isObjectId actor fallbackCategory execute candidate s
      (generateOne isObjectId actor fallbackCategory execute candidate s).1
      (generateOne isObjectId actor fallbackCategory execute candidate s).2 := by
  cases hcategory : categoryOf candidate.template fallbackCategory with
  | none =>
    simp only [generateOne, hcategory]
    exact .missing _ hcategory rfl
  | some ids =>
    simp only [generateOne, hcategory]
    by_cases hfound : candidate.idempotencyKey ∈ s.existingKeys
    · rw [if_pos hfound]
      exact .found _ ids hcategory hfound rfl
    rw [if_neg hfound]
    by_cases hexecute : execute = false
    · rw [if_pos hexecute]
      exact .ready _ ids hcategory hfound hexecute rfl
    rw [if_neg hexecute]
    rw [Bool.not_eq_false] at hexecute
    by_cases hvalid : candidateErrors isObjectId actor fallbackCategory candidate ids = []
    · by_cases hstored : StoredKey.ofKey candidate.idempotencyKey ∈ s.store.keys
      · rw [saveCase_of_stored hvalid hstored]
        exact .duplicate _ ids hcategory hfound hexecute hvalid hstored rfl
      · rw [saveCase_of_fresh hvalid hstored]
        exact .generated _ ids hcategory hfound hexecute hvalid hstored rfl
    · rw [saveCase_of_invalid hvalid]
      dsimp only
      exact .invalid ids hcategory hfound hexecute hvalid

end

/-! ## The loop -/

section

variable {isObjectId : String → Bool} {actor : Actor} {fallbackCategory : Option CategoryConfig}
  {execute : Bool}

/-- A round leaves every docket in the store. -/
theorem Round.dockets_subset {candidate : Candidate} {s s' : Progress} {item : Item}
    (h : Round isObjectId actor fallbackCategory execute candidate s item s') :
    s.store.dockets ⊆ s'.store.dockets := by
  cases h with
  | generated => exact List.subset_cons_self _ _
  | _ => exact List.Subset.refl _

/-- The loop leaves every docket in the store. -/
theorem generateAll_dockets_subset : ∀ (candidates : List Candidate) (s : Progress),
    s.store.dockets ⊆ (generateAll isObjectId actor fallbackCategory execute candidates
      s).2.store.dockets
  | [], _ => List.Subset.refl _
  | candidate :: candidates, s => List.Subset.trans
      (generateOne_round isObjectId actor fallbackCategory execute candidate s).dockets_subset
      (generateAll_dockets_subset candidates _)

/-- What the rounds preserve, the loop preserves. -/
theorem generateAll_preserves {I : Progress → Prop} : ∀ (candidates : List Candidate)
    {s : Progress}, (∀ candidate ∈ candidates, ∀ s, I s →
      I (generateOne isObjectId actor fallbackCategory execute candidate s).2) → I s →
      I (generateAll isObjectId actor fallbackCategory execute candidates s).2
  | [], _, _, hs => hs
  | candidate :: candidates, s, hround, hs =>
    generateAll_preserves candidates (fun c hc => hround c (List.mem_cons_of_mem candidate hc))
      (hround candidate List.mem_cons_self s hs)

/-- An item was made in a round, from what the rounds before it preserve, and the store has at the
end what it had after that. -/
theorem exists_progress {I : Progress → Prop} : ∀ (candidates : List Candidate) {s : Progress}
    {i : ℕ} {candidate : Candidate}, (∀ candidate ∈ candidates, ∀ s, I s →
      I (generateOne isObjectId actor fallbackCategory execute candidate s).2) → I s →
      candidates[i]? = some candidate →
      ∃ before, I before ∧
        (generateAll isObjectId actor fallbackCategory execute candidates s).1[i]? =
          some (generateOne isObjectId actor fallbackCategory execute candidate before).1 ∧
        (generateOne isObjectId actor fallbackCategory execute candidate before).2.store.dockets ⊆
          (generateAll isObjectId actor fallbackCategory execute candidates s).2.store.dockets
  | [], _, _, _, _, _, hi => by simp at hi
  | first :: rest, s, 0, candidate, _, hs, hi => by
    rw [List.getElem?_cons_zero, Option.some.injEq] at hi
    subst hi
    exact ⟨s, hs, rfl, generateAll_dockets_subset rest _⟩
  | first :: rest, s, i + 1, candidate, hround, hs, hi => by
    rw [List.getElem?_cons_succ] at hi
    exact exists_progress rest (fun c hc => hround c (List.mem_cons_of_mem first hc))
      (hround first List.mem_cons_self s hs) hi

/-! ## What the loop preserves -/

/-- The keys that are compared first are stored. -/
def KeysStored (s : Progress) : Prop := ∀ key ∈ s.existingKeys, StoredKey.ofKey key ∈ s.store.keys

/-- A stored key is what is stored of it. -/
theorem StoredKey.ofKey_text (key : StoredKey) : StoredKey.ofKey key.text = key := by
  obtain ⟨text, isCast⟩ := key
  simp only [StoredKey.ofKey, isCast]

theorem existingKeys_stored (store : Store) (candidates : List Candidate) :
    KeysStored ⟨existingKeys store candidates, store⟩ := by
  intro key hkey
  obtain ⟨stored, hstored, rfl⟩ := List.mem_map.mp hkey
  rw [StoredKey.ofKey_text]
  exact List.mem_of_mem_filter hstored

theorem Round.keysStored {candidate : Candidate} {s s' : Progress} {item : Item}
    (h : Round isObjectId actor fallbackCategory execute candidate s item s')
    (hs : KeysStored s) : KeysStored s' := by
  cases h with
  | generated =>
    intro key hkey
    rcases List.mem_cons.mp hkey with rfl | hkey
    · exact List.mem_cons_self
    · exact List.mem_cons_of_mem _ (hs key hkey)
  | _ => exact hs

end

end Docketra.Compliance
