import Docketra.Lib.Taking
import Docketra.ComplianceCollisions

/-!
# Preview and execution

No key of a candidate is the stored form of a key, for it has the capital letter of a client's id in
it. What is found in the store is therefore never found among the keys that are compared first, and
the preview reports as ready whatever has a category (`preview_status`). The execution generates
what the schema and the unique index let pass: in the terms of `Taking`, it takes the first valid
docket of each key (`generated_eq_taken`).

The two agree exactly where there is nothing to refuse (`preview_agrees_iff`).
-/

namespace Docketra.Compliance

open Calendar Taking

/-! ## The preview -/

/-- A key of a candidate is not in its stored form. -/
theorem castIdempotencyKey_ne (template : Template) (client : Client) (period : Period) :
    castIdempotencyKey (generationCandidate template client period).idempotencyKey ≠
      (generationCandidate template client period).idempotencyKey := by
  obtain ⟨digits, htext, hlower, -⟩ := client.clientId.toList_toLowerCase
  rw [castIdempotencyKey_eq, ne_eq, ← String.toList_inj, toList_storedKey, hlower]
  intro h
  simp only [generationCandidate, String.toList_append, List.append_assoc, htext] at h
  have hletters := List.append_cancel_left h
  exact absurd (List.cons.inj hletters).1 (by decide)

/-- What is found in the store is not found among the keys that are compared first. -/
theorem notMem_existingKeys {templates : List Template} {clients : List Client}
    {rangeStart rangeEnd : Day} {candidate : Candidate}
    (h : candidate ∈ buildGenerationCandidates templates clients rangeStart rangeEnd)
    (store : Store) (candidates : List Candidate) :
    candidate.idempotencyKey ∉ existingKeys store candidates := by
  obtain ⟨template, -, client, -, -, period, -, rfl⟩ := mem_buildGenerationCandidates.mp h
  intro hmem
  obtain ⟨key, -, hkey⟩ := List.mem_map.mp hmem
  refine castIdempotencyKey_ne template client period ?_
  rw [← hkey, key.isCast]

section

variable {isObjectId : String → Bool} {actor : Actor} {fallbackCategory : Option CategoryConfig}

/-- The candidate's template has a category, or there is another for it. -/
def hasCategory (fallbackCategory : Option CategoryConfig) (candidate : Candidate) : Bool :=
  (categoryOf candidate.template fallbackCategory).isSome

/-- The candidate's template has a category, and the schema finds nothing wrong with its docket. -/
def isValid (isObjectId : String → Bool) (actor : Actor) (fallbackCategory : Option CategoryConfig)
    (candidate : Candidate) : Bool :=
  match categoryOf candidate.template fallbackCategory with
  | none => false
  | some ids => candidateErrors isObjectId actor fallbackCategory candidate ids = []

theorem hasCategory_of_isValid (candidate : Candidate)
    (h : isValid isObjectId actor fallbackCategory candidate = true) :
    hasCategory fallbackCategory candidate = true := by
  unfold isValid at h
  unfold hasCategory
  cases hcategory : categoryOf candidate.template fallbackCategory with
  | none =>
    rw [hcategory] at h
    exact absurd h Bool.false_ne_true
  | some => rfl

theorem isValid_iff {candidate : Candidate} {ids : ObjectId × String}
    (hcategory : categoryOf candidate.template fallbackCategory = some ids) :
    isValid isObjectId actor fallbackCategory candidate = true ↔
      candidateErrors isObjectId actor fallbackCategory candidate ids = [] := by
  simp only [isValid, hcategory, decide_eq_true_eq]

/-- The status of a round of the preview. -/
def previewStatus (fallbackCategory : Option CategoryConfig) (candidate : Candidate) :
    ItemStatus :=
  if hasCategory fallbackCategory candidate then .ready_to_generate else .failed

/-- The preview leaves everything as it is, and reports as ready what has a category. -/
theorem Round.preview {candidate : Candidate} {s s' : Progress} {item : Item}
    (h : Round isObjectId actor fallbackCategory false candidate s item s')
    (hfound : candidate.idempotencyKey ∉ s.existingKeys) :
    item.status = previewStatus fallbackCategory candidate ∧ s' = s := by
  unfold previewStatus hasCategory
  cases h with
  | missing _ hcategory hstatus => rw [hcategory, hstatus]; exact ⟨rfl, rfl⟩
  | found _ _ _ hmem => exact absurd hmem hfound
  | ready _ _ hcategory _ _ hstatus => rw [hcategory, hstatus]; exact ⟨rfl, rfl⟩
  | generated _ _ _ _ hexecute => cases hexecute
  | duplicate _ _ _ _ hexecute => cases hexecute
  | invalid _ _ _ hexecute => cases hexecute

/-- The statuses of a preview. -/
theorem preview_status : ∀ {candidates : List Candidate} {s : Progress},
    (∀ candidate ∈ candidates, candidate.idempotencyKey ∉ s.existingKeys) →
      (generateAll isObjectId actor fallbackCategory false candidates s).1.map Item.status =
        candidates.map (previewStatus fallbackCategory)
  | [], _, _ => rfl
  | candidate :: candidates, s, h => by
    obtain ⟨hstatus, hsame⟩ := (generateOne_round isObjectId actor fallbackCategory false candidate
      s).preview (h candidate List.mem_cons_self)
    have ih : (generateAll isObjectId actor fallbackCategory false candidates s).1.map
        Item.status = candidates.map (previewStatus fallbackCategory) :=
      preview_status fun c hc => h c (List.mem_cons_of_mem _ hc)
    simp only [generateAll, List.map_cons, hstatus, hsame, ih]

/-! ## The execution -/

/-- A docket that is refused is not generated. -/
theorem refusedItem_ne_generated (candidate : Candidate) (error : Failure) :
    (refusedItem candidate error).status ≠ .generated := by
  unfold refusedItem
  split_ifs <;> exact nofun

/-- A candidate without a category fails. -/
theorem Round.failed {candidate : Candidate} {s s' : Progress} {item : Item} {execute : Bool}
    (h : Round isObjectId actor fallbackCategory execute candidate s item s')
    (hcategory : hasCategory fallbackCategory candidate = false) : item.status = .failed := by
  unfold hasCategory at hcategory
  cases h with
  | missing _ _ hstatus => exact hstatus
  | found _ _ hsome => rw [hsome] at hcategory; cases hcategory
  | ready _ _ hsome => rw [hsome] at hcategory; cases hcategory
  | generated _ _ hsome => rw [hsome] at hcategory; cases hcategory
  | duplicate _ _ hsome => rw [hsome] at hcategory; cases hcategory
  | invalid _ hsome => rw [hsome] at hcategory; cases hcategory

/-- A docket is generated when it is valid and its key fresh. -/
theorem Round.of_fresh {candidate : Candidate} {s s' : Progress} {item : Item}
    (h : Round isObjectId actor fallbackCategory true candidate s item s') (hs : KeysStored s)
    (hvalid : isValid isObjectId actor fallbackCategory candidate = true)
    (hfresh : StoredKey.ofKey candidate.idempotencyKey ∉ s.store.keys) :
    item.status = .generated ∧
      s'.store.keys = StoredKey.ofKey candidate.idempotencyKey :: s.store.keys := by
  cases h with
  | missing _ hcategory =>
    simp only [isValid, hcategory] at hvalid
    cases hvalid
  | found _ _ _ hfound => exact absurd (hs _ hfound) hfresh
  | ready _ _ _ _ hexecute => cases hexecute
  | generated _ _ _ _ _ _ _ hstatus => exact ⟨hstatus, rfl⟩
  | duplicate _ _ _ _ _ _ hstored => exact absurd hstored hfresh
  | invalid _ hcategory _ _ hinvalid => exact absurd ((isValid_iff hcategory).mp hvalid) hinvalid

/-- A docket is not generated when it is invalid or its key is stored. -/
theorem Round.of_not {candidate : Candidate} {s s' : Progress} {item : Item}
    (h : Round isObjectId actor fallbackCategory true candidate s item s')
    (hnot : ¬(isValid isObjectId actor fallbackCategory candidate = true ∧
      StoredKey.ofKey candidate.idempotencyKey ∉ s.store.keys)) :
    item.status ≠ .generated ∧ s'.store.keys = s.store.keys := by
  cases h with
  | missing _ _ hstatus => exact ⟨by rw [hstatus]; exact nofun, rfl⟩
  | found _ _ _ _ hstatus => exact ⟨by rw [hstatus]; exact nofun, rfl⟩
  | ready _ _ _ _ hexecute => cases hexecute
  | generated _ _ hcategory _ _ hvalid hfresh =>
    exact absurd ⟨(isValid_iff hcategory).mpr hvalid, hfresh⟩ hnot
  | duplicate _ _ _ _ _ _ _ hstatus => exact ⟨by rw [hstatus]; exact nofun, rfl⟩
  | invalid => exact ⟨refusedItem_ne_generated _ _, rfl⟩

/-- A valid docket whose key is stored is skipped. -/
theorem Round.of_stored {candidate : Candidate} {s s' : Progress} {item : Item}
    (h : Round isObjectId actor fallbackCategory true candidate s item s')
    (hvalid : isValid isObjectId actor fallbackCategory candidate = true)
    (hstored : StoredKey.ofKey candidate.idempotencyKey ∈ s.store.keys) :
    item.status = .skipped_duplicate := by
  cases h with
  | missing _ hcategory =>
    simp only [isValid, hcategory] at hvalid
    cases hvalid
  | found _ _ _ _ hstatus => exact hstatus
  | ready _ _ _ _ hexecute => cases hexecute
  | generated _ _ _ _ _ _ hfresh => exact absurd hstored hfresh
  | duplicate _ _ _ _ _ _ _ hstatus => exact hstatus
  | invalid _ hcategory _ _ hinvalid => exact absurd ((isValid_iff hcategory).mp hvalid) hinvalid

/-- The execution generates the first valid docket of each key. -/
theorem generated_eq_taken : ∀ {candidates : List Candidate} {s : Progress}, KeysStored s →
    (generateAll isObjectId actor fallbackCategory true candidates s).1.map
        (fun item => decide (item.status = .generated)) =
      taken (fun candidate => StoredKey.ofKey candidate.idempotencyKey)
        (isValid isObjectId actor fallbackCategory) candidates s.store.keys
  | [], _, _ => rfl
  | candidate :: candidates, s, hs => by
    have hround := generateOne_round isObjectId actor fallbackCategory true candidate s
    rw [generateAll, List.map_cons, generated_eq_taken (hround.keysStored hs)]
    by_cases htake : isValid isObjectId actor fallbackCategory candidate = true ∧
        StoredKey.ofKey candidate.idempotencyKey ∉ s.store.keys
    · obtain ⟨hstatus, hkeys⟩ := hround.of_fresh hs htake.1 htake.2
      rw [taken_cons_of_fresh htake.1 htake.2, hkeys, decide_eq_true hstatus]
    · obtain ⟨hstatus, hkeys⟩ := hround.of_not htake
      rw [taken_cons_of_not htake, hkeys, decide_eq_false hstatus]

end

/-! ## The candidates of a range -/

theorem generationCandidate_period_inj {template : Template} {client : Client} :
    Function.Injective (generationCandidate template client) := by
  intro p q h
  exact Period.ext (congrArg Candidate.periodStart h) (congrArg Candidate.periodEnd h)

theorem mem_templateCandidates {clients : List Client} {rangeStart rangeEnd : Day}
    {template : Template} {candidate : Candidate}
    (h : candidate ∈ templateCandidates clients rangeStart rangeEnd template) :
    candidate.template = template := by
  obtain ⟨t, ht, _, _, _, _, _, rfl⟩ := mem_buildGenerationCandidates.mp
    (List.mem_flatMap.mpr ⟨template, List.mem_singleton_self template, h⟩)
  exact List.mem_singleton.mp ht

/-- No candidate is built twice of distinct clients. -/
theorem nodup_templateCandidates {clients : List Client} (hclients : clients.Nodup)
    (rangeStart rangeEnd : Day) (template : Template) :
    (templateCandidates clients rangeStart rangeEnd template).Nodup := by
  have hperiods := nodup_expandRecurringPeriods template.recurrencePattern rangeStart rangeEnd
  refine List.nodup_flatMap.mpr ⟨fun client _ => ?_, hclients.imp fun {c d} hne => ?_⟩
  · split_ifs
    · exact hperiods.map generationCandidate_period_inj
    · exact List.nodup_nil
  · intro candidate hc hd
    dsimp only at hc hd
    split_ifs at hc hd
    · obtain ⟨_, _, rfl⟩ := List.mem_map.mp hc
      obtain ⟨_, _, heq⟩ := List.mem_map.mp hd
      exact hne (congrArg Candidate.client heq).symm
    all_goals first | exact absurd hc List.not_mem_nil | exact absurd hd List.not_mem_nil

theorem Firm.nodup_loadTemplates (firm : Firm) (templateIds : List ObjectId) :
    (firm.loadTemplates templateIds).Nodup := by
  have hnodup : firm.templates.Nodup := List.Nodup.of_map _ firm.templates_nodup
  exact (List.perm_insertionSort _ _).nodup_iff.mpr (hnodup.filter _)

/-- No candidate is built twice. -/
theorem Firm.nodup_candidates (firm : Firm) (req : GenerationRequest) (range : Day × Day) :
    (firm.candidates req range).Nodup := by
  have hclients : (firm.loadClientsForGeneration req.clientIds).Nodup :=
    (List.Nodup.of_map _ firm.clients_nodup).filter _
  refine List.nodup_flatMap.mpr ⟨fun template _ => ?_,
    (firm.nodup_loadTemplates req.templateIds).imp fun {t u} hne => ?_⟩
  · exact nodup_templateCandidates hclients range.1 range.2 template
  · intro candidate ht hu
    exact hne ((mem_templateCandidates ht).symm.trans (mem_templateCandidates hu))

/-! ## Agreement -/

/-- The status of an item, by the place of its candidate. -/
def statusAt (items : List Item) (i : ℕ) : Option ItemStatus := (items[i]?).map Item.status

section

variable (isObjectId : String → Bool) (firm : Firm) (req : GenerationRequest) (store : Store)

/-- What is ready in a preview is what an execution generates on the same store, both skip the same
as duplicates, and a second execution skips all of these. -/
def PreviewAgrees : Prop :=
  ∀ preview first second,
    previewOrGenerate isObjectId firm req false store = .ok preview →
    previewOrGenerate isObjectId firm req true store = .ok first →
    previewOrGenerate isObjectId firm req true first.store = .ok second →
    (∀ i, statusAt preview.items i = some .ready_to_generate ↔
      statusAt first.items i = some .generated) ∧
    (∀ i, statusAt preview.items i = some .skipped_duplicate ↔
      statusAt first.items i = some .skipped_duplicate) ∧
    (∀ i, statusAt first.items i = some .generated ∨
        statusAt first.items i = some .skipped_duplicate →
      statusAt second.items i = some .skipped_duplicate)

/-- The dockets of a template with a category pass the schema, and none is stored under the key of
one of them. -/
def DocketsPass (range : Day × Day) : Prop :=
  ∀ template ∈ firm.loadTemplates req.templateIds, ∀ ids,
    categoryOf template firm.resolveFallbackCategoryConfig = some ids →
    ∀ client ∈ firm.loadClientsForGeneration req.clientIds, template.appliesTo client = true →
    ∀ period ∈ expandRecurringPeriods template.recurrencePattern range.1 range.2,
      candidateErrors isObjectId req.actor firm.resolveFallbackCategoryConfig
        (generationCandidate template client period) ids = [] ∧
      StoredKey.ofKey (generationCandidate template client period).idempotencyKey ∉ store.keys

/-- No two templates of one obligation type, each with a category, apply to one client and have
periods of the range that start in one month. -/
def TypesApart (range : Day × Day) : Prop :=
  ∀ t₁ ∈ firm.loadTemplates req.templateIds, ∀ t₂ ∈ firm.loadTemplates req.templateIds,
    (categoryOf t₁ firm.resolveFallbackCategoryConfig).isSome = true →
    (categoryOf t₂ firm.resolveFallbackCategoryConfig).isSome = true →
    t₁ ≠ t₂ → t₁.obligationKey = t₂.obligationKey →
    ∀ client ∈ firm.loadClientsForGeneration req.clientIds, t₁.appliesTo client = true →
      t₂.appliesTo client = true →
      ∀ p₁ ∈ expandRecurringPeriods t₁.recurrencePattern range.1 range.2,
        ∀ p₂ ∈ expandRecurringPeriods t₂.recurrencePattern range.1 range.2,
          p₁.periodStart ≠ p₂.periodStart

end

section

variable {isObjectId : String → Bool} {firm : Firm} {req : GenerationRequest} {store : Store}
  {range : Day × Day}

/-- The candidates that are ready are those of the templates with a category. -/
theorem docketsPass_iff : DocketsPass isObjectId firm req store range ↔
    ∀ candidate ∈ firm.candidates req range,
      hasCategory firm.resolveFallbackCategoryConfig candidate = true →
      isValid isObjectId req.actor firm.resolveFallbackCategoryConfig candidate = true ∧
        StoredKey.ofKey candidate.idempotencyKey ∉ store.keys := by
  constructor
  · intro h candidate hcandidate hcategory
    obtain ⟨template, htemplate, client, hclient, happlies, period, hperiod, rfl⟩ :=
      mem_buildGenerationCandidates.mp hcandidate
    obtain ⟨ids, hids⟩ := Option.isSome_iff_exists.mp hcategory
    obtain ⟨hvalid, hfresh⟩ := h template htemplate ids hids client hclient happlies period hperiod
    exact ⟨(isValid_iff hids).mpr hvalid, hfresh⟩
  · intro h template htemplate ids hids client hclient happlies period hperiod
    obtain ⟨hvalid, hfresh⟩ := h (generationCandidate template client period)
      (mem_buildGenerationCandidates.mpr
        ⟨template, htemplate, client, hclient, happlies, period, hperiod, rfl⟩)
      (Option.isSome_iff_exists.mpr ⟨ids, hids⟩)
    exact ⟨(isValid_iff hids).mp hvalid, hfresh⟩

/-- The keys of the candidates with a category are distinct exactly where types are apart. -/
theorem typesApart_iff : TypesApart firm req range ↔
    (((firm.candidates req range).filter
      (hasCategory firm.resolveFallbackCategoryConfig)).map
        fun candidate => StoredKey.ofKey candidate.idempotencyKey).Nodup := by
  have hnodup := (firm.nodup_candidates req range).filter
    (hasCategory firm.resolveFallbackCategoryConfig)
  rw [List.nodup_map_iff_inj_on hnodup]
  constructor
  · intro h a ha b hb hkey
    obtain ⟨ha, hcategory₁⟩ := List.mem_filter.mp ha
    obtain ⟨hb, hcategory₂⟩ := List.mem_filter.mp hb
    obtain ⟨t₁, ht₁, c₁, hc₁, happlies₁, p₁, hp₁, rfl⟩ := mem_buildGenerationCandidates.mp ha
    obtain ⟨t₂, ht₂, c₂, hc₂, happlies₂, p₂, hp₂, rfl⟩ := mem_buildGenerationCandidates.mp hb
    obtain ⟨hclientId, htype, hmonth⟩ := storedKey_inj (ofKey_eq_iff.mp hkey)
    have hclient := Firm.client_ext (mem_loadClientsForGeneration.mp hc₁).1
      (mem_loadClientsForGeneration.mp hc₂).1 hclientId
    subst hclient
    by_cases htemplate : t₁ = t₂
    · subst htemplate
      rw [period_ext hp₁ hp₂ hmonth]
    · have hstart : p₁.periodStart = p₂.periodStart := by
        rw [start_of_mem_expandRecurringPeriods hp₁, start_of_mem_expandRecurringPeriods hp₂,
          hmonth]
      exact absurd hstart (h t₁ ht₁ t₂ ht₂ hcategory₁ hcategory₂ htemplate htype c₁ hc₁ happlies₁
        happlies₂ p₁ hp₁ p₂ hp₂)
  · intro h t₁ ht₁ t₂ ht₂ hcategory₁ hcategory₂ hne htype client hclient happlies₁ happlies₂
      p₁ hp₁ p₂ hp₂ hstart
    have ha : generationCandidate t₁ client p₁ ∈ firm.candidates req range :=
      mem_buildGenerationCandidates.mpr ⟨t₁, ht₁, client, hclient, happlies₁, p₁, hp₁, rfl⟩
    have hb : generationCandidate t₂ client p₂ ∈ firm.candidates req range :=
      mem_buildGenerationCandidates.mpr ⟨t₂, ht₂, client, hclient, happlies₂, p₂, hp₂, rfl⟩
    have heq := h _ (List.mem_filter.mpr ⟨ha, hcategory₁⟩) _
      (List.mem_filter.mpr ⟨hb, hcategory₂⟩)
      (ofKey_eq_iff.mpr (storedKey_congr htype hstart client))
    exact hne (congrArg Candidate.template heq)

/-- A run gives an outcome for a range that is accepted. -/
theorem exists_generation (isObjectId : String → Bool) (firm : Firm) (execute : Bool)
    (store : Store) (hrange : req.range = .ok range) :
    ∃ generation, previewOrGenerate isObjectId firm req execute store = .ok generation := by
  simp only [previewOrGenerate, hrange]
  exact ⟨_, rfl⟩

/-- The range of a run that gives an outcome has been accepted. -/
theorem exists_range {execute : Bool} {generation : Generation}
    (h : previewOrGenerate isObjectId firm req execute store = .ok generation) :
    ∃ range, req.range = .ok range := by
  cases hrange : req.range with
  | error e =>
    simp only [previewOrGenerate, hrange] at h
    cases h
  | ok range => exact ⟨range, rfl⟩

/-- The status of an item of a preview. -/
theorem statusAt_preview {preview : Generation} (hrange : req.range = .ok range)
    (h : previewOrGenerate isObjectId firm req false store = .ok preview) (i : ℕ) :
    statusAt preview.items i = ((firm.candidates req range)[i]?).map
      (previewStatus firm.resolveFallbackCategoryConfig) := by
  have hitems := (previewOrGenerate_eq_ok hrange h).1
  have hstatus : preview.items.map Item.status = (firm.candidates req range).map
      (previewStatus firm.resolveFallbackCategoryConfig) := by
    rw [hitems]
    exact preview_status fun candidate hcandidate => notMem_existingKeys hcandidate store _
  rw [statusAt, ← List.getElem?_map, hstatus, List.getElem?_map]

/-- What an execution generates. -/
theorem generated_execution {first : Generation} (hrange : req.range = .ok range)
    (h : previewOrGenerate isObjectId firm req true store = .ok first) :
    first.items.map (fun item => decide (item.status = .generated)) =
      taken (fun candidate => StoredKey.ofKey candidate.idempotencyKey)
        (isValid isObjectId req.actor firm.resolveFallbackCategoryConfig)
        (firm.candidates req range) store.keys := by
  rw [(previewOrGenerate_eq_ok hrange h).1]
  exact generated_eq_taken (existingKeys_stored store _)

/-- An item is of a candidate with a category, in the preview's list of what is ready. -/
theorem statusAt_preview_eq_ready {preview : Generation} (hrange : req.range = .ok range)
    (h : previewOrGenerate isObjectId firm req false store = .ok preview) (i : ℕ) :
    statusAt preview.items i = some .ready_to_generate ↔
      ((firm.candidates req range).map (hasCategory firm.resolveFallbackCategoryConfig))[i]? =
        some true := by
  rw [statusAt_preview hrange h, List.getElem?_map]
  cases (firm.candidates req range)[i]? with
  | none => simp
  | some candidate => simp [previewStatus]

/-- The preview skips nothing. -/
theorem statusAt_preview_ne_skipped {preview : Generation} (hrange : req.range = .ok range)
    (h : previewOrGenerate isObjectId firm req false store = .ok preview) (i : ℕ) :
    statusAt preview.items i ≠ some .skipped_duplicate := by
  rw [statusAt_preview hrange h]
  cases (firm.candidates req range)[i]? with
  | none => exact nofun
  | some candidate =>
    rw [Option.map_some, previewStatus]
    split_ifs <;> exact nofun

theorem statusAt_eq_generated {first : Generation} (i : ℕ) :
    statusAt first.items i = some .generated ↔
      (first.items.map fun item => decide (item.status = .generated))[i]? = some true := by
  rw [statusAt, List.getElem?_map]
  cases first.items[i]? <;> simp

/-- What is ready in the preview is what is generated, exactly where all with a category are
taken. -/
theorem ready_iff_generated {preview first : Generation} (hrange : req.range = .ok range)
    (hpreview : previewOrGenerate isObjectId firm req false store = .ok preview)
    (hfirst : previewOrGenerate isObjectId firm req true store = .ok first) :
    (∀ i, statusAt preview.items i = some .ready_to_generate ↔
      statusAt first.items i = some .generated) ↔
    DocketsPass isObjectId firm req store range ∧ TypesApart firm req range := by
  rw [docketsPass_iff, typesApart_iff, ← taken_eq_map_iff hasCategory_of_isValid]
  simp only [statusAt_preview_eq_ready hrange hpreview, statusAt_eq_generated,
    generated_execution hrange hfirst]
  constructor
  · intro h
    refine eq_of_true_iff ?_ fun i => (h i).symm
    rw [length_taken, List.length_map]
  · intro h i
    rw [h]

/-- What a round of an execution generates has its key in the store. -/
theorem Round.mem_keys {actor : Actor} {fallbackCategory : Option CategoryConfig}
    {candidate : Candidate} {s s' : Progress} {item : Item}
    (h : Round isObjectId actor fallbackCategory true candidate s item s')
    (hstatus : item.status = .generated) :
    isValid isObjectId actor fallbackCategory candidate = true ∧
      StoredKey.ofKey candidate.idempotencyKey ∈ s'.store.keys := by
  cases h with
  | missing _ _ h => rw [h] at hstatus; cases hstatus
  | found _ _ _ _ h => rw [h] at hstatus; cases hstatus
  | ready _ _ _ _ hexecute => cases hexecute
  | generated _ _ hcategory _ _ hvalid =>
    exact ⟨(isValid_iff hcategory).mpr hvalid, List.mem_cons_self⟩
  | duplicate _ _ _ _ _ _ _ h => rw [h] at hstatus; cases hstatus
  | invalid => exact absurd hstatus (refusedItem_ne_generated _ _)

theorem length_generateAll {actor : Actor} {fallbackCategory : Option CategoryConfig}
    {execute : Bool} : ∀ (candidates : List Candidate) (s : Progress),
    (generateAll isObjectId actor fallbackCategory execute candidates s).1.length =
      candidates.length
  | [], _ => rfl
  | candidate :: candidates, s => by
    rw [generateAll, List.length_cons, length_generateAll candidates, List.length_cons]

/-- There is an item for each candidate only. -/
theorem exists_candidate {execute : Bool} {generation : Generation} (hrange : req.range = .ok range)
    (h : previewOrGenerate isObjectId firm req execute store = .ok generation) {i : ℕ}
    {status : ItemStatus} (hstatus : statusAt generation.items i = some status) :
    ∃ candidate, (firm.candidates req range)[i]? = some candidate := by
  obtain ⟨item, hitem, -⟩ := Option.map_eq_some_iff.mp hstatus
  have hlt := (List.getElem?_eq_some_iff.mp hitem).1
  rw [(previewOrGenerate_eq_ok hrange h).1, length_generateAll] at hlt
  exact ⟨_, List.getElem?_eq_getElem hlt⟩

/-- An item was made in a round, of a store that had what the run began with, and that lost nothing
afterwards. -/
theorem exists_round {execute : Bool} {generation : Generation} (hrange : req.range = .ok range)
    (h : previewOrGenerate isObjectId firm req execute store = .ok generation) {i : ℕ}
    {candidate : Candidate} (hi : (firm.candidates req range)[i]? = some candidate) :
    ∃ before item after,
      Round isObjectId req.actor firm.resolveFallbackCategoryConfig execute candidate before item
        after ∧
      statusAt generation.items i = some item.status ∧
      store.dockets ⊆ before.store.dockets ∧ after.store.dockets ⊆ generation.store.dockets := by
  obtain ⟨hitems, hfinal⟩ := previewOrGenerate_eq_ok hrange h
  have hround : ∀ c ∈ firm.candidates req range, ∀ s : Progress,
      store.dockets ⊆ s.store.dockets →
      store.dockets ⊆ (generateOne isObjectId req.actor firm.resolveFallbackCategoryConfig execute
        c s).2.store.dockets := fun c _ s hs =>
    List.Subset.trans hs (generateOne_round isObjectId req.actor
      firm.resolveFallbackCategoryConfig execute c s).dockets_subset
  obtain ⟨before, hbefore, hmade, hafter⟩ := exists_progress (firm.candidates req range)
    (s := ⟨existingKeys store (firm.candidates req range), store⟩) hround (List.Subset.refl _) hi
  refine ⟨before, _, _, generateOne_round isObjectId req.actor
    firm.resolveFallbackCategoryConfig execute candidate before, ?_, hbefore, ?_⟩
  · rw [statusAt, hitems, hmade, Option.map_some]
  · rw [hfinal]
    exact hafter

/-- What one execution generates, the next one skips. -/
theorem skipped_of_generated {first second : Generation} (hrange : req.range = .ok range)
    (hfirst : previewOrGenerate isObjectId firm req true store = .ok first)
    (hsecond : previewOrGenerate isObjectId firm req true first.store = .ok second) {i : ℕ}
    (h : statusAt first.items i = some .generated) :
    statusAt second.items i = some .skipped_duplicate := by
  obtain ⟨candidate, hi⟩ := exists_candidate hrange hfirst h
  obtain ⟨_, item, after, hround, hstatus, -, hafter⟩ := exists_round hrange hfirst hi
  have hgenerated : item.status = .generated := Option.some.inj (hstatus.symm.trans h)
  obtain ⟨hvalid, hkey⟩ := hround.mem_keys hgenerated
  obtain ⟨before, item', _, hround', hstatus', hbefore, -⟩ := exists_round hrange hsecond hi
  have hstored : StoredKey.ofKey candidate.idempotencyKey ∈ before.store.keys :=
    List.map_subset _ (List.Subset.trans hafter hbefore) hkey
  rw [hstatus', hround'.of_stored hvalid hstored]

/-- An execution skips nothing where it generates all that is ready in a preview. -/
theorem statusAt_execution_ne_skipped {preview first : Generation} (hrange : req.range = .ok range)
    (hpreview : previewOrGenerate isObjectId firm req false store = .ok preview)
    (hfirst : previewOrGenerate isObjectId firm req true store = .ok first)
    (hagree : ∀ i, statusAt preview.items i = some .ready_to_generate ↔
      statusAt first.items i = some .generated) (i : ℕ) :
    statusAt first.items i ≠ some .skipped_duplicate := by
  intro h
  obtain ⟨candidate, hi⟩ := exists_candidate hrange hfirst h
  by_cases hcategory : hasCategory firm.resolveFallbackCategoryConfig candidate = true
  · have hready : statusAt preview.items i = some .ready_to_generate := by
      rw [statusAt_preview hrange hpreview, hi, Option.map_some, previewStatus, if_pos hcategory]
    rw [(hagree i).mp hready] at h
    cases h
  · obtain ⟨_, item, _, hround, hstatus, -, -⟩ := exists_round hrange hfirst hi
    rw [hstatus, hround.failed ((Bool.not_eq_true _).mp hcategory)] at h
    cases h

end

/-- A preview and an execution agree exactly where the dockets of the templates with a category pass
the schema, none is stored under the key of one of them, and no two such templates of one obligation
type share a client and the start of a period. -/
theorem preview_agrees_iff (isObjectId : String → Bool) (firm : Firm) (req : GenerationRequest)
    (store : Store) : PreviewAgrees isObjectId firm req store ↔
      ∀ range, req.range = .ok range →
        DocketsPass isObjectId firm req store range ∧ TypesApart firm req range := by
  constructor
  · intro h range hrange
    obtain ⟨preview, hpreview⟩ := exists_generation isObjectId firm false store hrange
    obtain ⟨first, hfirst⟩ := exists_generation isObjectId firm true store hrange
    obtain ⟨second, hsecond⟩ := exists_generation isObjectId firm true first.store hrange
    exact (ready_iff_generated hrange hpreview hfirst).mp
      (h preview first second hpreview hfirst hsecond).1
  · intro h preview first second hpreview hfirst hsecond
    obtain ⟨range, hrange⟩ := exists_range hpreview
    have hagree := (ready_iff_generated hrange hpreview hfirst).mpr (h range hrange)
    have hskipped := statusAt_execution_ne_skipped hrange hpreview hfirst hagree
    refine ⟨hagree, fun i => ?_, fun i hi => ?_⟩
    · exact iff_of_false (statusAt_preview_ne_skipped hrange hpreview i) (hskipped i)
    · rcases hi with hi | hi
      · exact skipped_of_generated hrange hfirst hsecond hi
      · exact absurd hi (hskipped i)

/-- A preview and an execution do not agree where something is ready that is not generated. -/
theorem not_previewAgrees {isObjectId : String → Bool} {firm : Firm} {req : GenerationRequest}
    {store : Store} (i : ℕ)
    (hready : (previewOrGenerate isObjectId firm req false store).toOption.map
      (fun preview => statusAt preview.items i) = some (some .ready_to_generate))
    (hnot : (previewOrGenerate isObjectId firm req true store).toOption.map
      (fun first => statusAt first.items i) ≠ some (some .generated)) :
    ¬PreviewAgrees isObjectId firm req store := by
  intro h
  cases hpreview : previewOrGenerate isObjectId firm req false store with
  | error e =>
    rw [hpreview] at hready
    cases hready
  | ok preview =>
    obtain ⟨range, hrange⟩ := exists_range hpreview
    obtain ⟨first, hfirst⟩ := exists_generation isObjectId firm true store hrange
    obtain ⟨second, hsecond⟩ := exists_generation isObjectId firm true first.store hrange
    rw [hpreview] at hready
    rw [hfirst] at hnot
    refine hnot (congrArg some ?_)
    exact ((h preview first second hpreview hfirst hsecond).1 i).mp (Option.some.inj hready)

/-- A firm with a monthly GST template, whose dockets are assigned to a user or to none. -/
def monthlyFirm (defaultAssigneeXID : Option String) : Firm where
  templates :=
    [{ _id := ⟨"683ae9998aa0f4c4740a7a11"⟩
       name := "GST Monthly"
       obligationType := some "GST"
       defaultAssigneeXID := defaultAssigneeXID
       docketCategoryId := some ⟨"683ae9998aa0f4c4740a7a20"⟩
       docketSubcategoryId := some "sub-1" }]
  clients := [apexClient]
  categories := []
  templates_nodup := List.nodup_singleton _
  clients_nodup := List.nodup_singleton _

/-- A store with the docket of January. -/
def januaryStore : Store :=
  Store.empty.insert ⟨StoredKey.ofKey "compliance:C000111:gst:2026-01", none⟩ List.not_mem_nil

/-- The preview does not see the docket that is there, and not the assignee that is no object id. -/
theorem preview_agrees_fails :
    ¬PreviewAgrees (fun _ => false) (monthlyFirm none) (.ofDays january january) januaryStore ∧
      ¬PreviewAgrees (fun _ => false) (monthlyFirm (some "X000999")) (.ofDays january january)
        Store.empty :=
  ⟨not_previewAgrees 0 (by decide) (by decide),
    not_previewAgrees 0 (by decide +kernel) (by decide +kernel)⟩

end Docketra.Compliance
