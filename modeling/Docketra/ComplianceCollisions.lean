import Docketra.ComplianceRuns

/-!
# Obligations that share a key

A store is `Reached` when it is left by runs over the firm's templates and clients, from one without
dockets. Every docket in it was generated for a candidate, under the candidate's key
(`Reached.recorded`).

Two templates of one obligation type that apply to one client have candidates with one key wherever
their periods can start in one month. Then the docket of one of them is all there is for both.
Elsewhere a key is one candidate's, and nothing is skipped that has no docket
(`keys_identify_iff`).
-/

namespace Docketra.Compliance

open Calendar

/-! ## Candidates of a firm -/

/-- A candidate of some request. -/
def Firm.IsCandidate (firm : Firm) (candidate : Candidate) : Prop :=
  ∃ req range, req.range = .ok range ∧ candidate ∈ firm.candidates req range

/-- A period of the template can be one of a range. -/
def Template.HasPeriod (template : Template) (period : Period) : Prop :=
  ∃ rangeStart rangeEnd : Day, rangeStart ≤ rangeEnd ∧
    period ∈ expandRecurringPeriods template.recurrencePattern rangeStart rangeEnd

/-- The client is one that dockets are generated for. -/
def Client.isEligible (client : Client) : Bool :=
  client.status ≠ "inactive" ∧ client.isInternal = false

theorem mem_buildGenerationCandidates {templates : List Template} {clients : List Client}
    {rangeStart rangeEnd : Day} {candidate : Candidate} :
    candidate ∈ buildGenerationCandidates templates clients rangeStart rangeEnd ↔
      ∃ template ∈ templates, ∃ client ∈ clients, template.appliesTo client = true ∧
        ∃ period ∈ expandRecurringPeriods template.recurrencePattern rangeStart rangeEnd,
          generationCandidate template client period = candidate := by
  simp only [buildGenerationCandidates, templateCandidates, List.mem_flatMap]
  constructor
  · rintro ⟨template, htemplate, client, hclient, hcandidate⟩
    split_ifs at hcandidate with happlies
    · obtain ⟨period, hperiod, rfl⟩ := List.mem_map.mp hcandidate
      exact ⟨template, htemplate, client, hclient, happlies, period, hperiod, rfl⟩
    · exact absurd hcandidate List.not_mem_nil
  · rintro ⟨template, htemplate, client, hclient, happlies, period, hperiod, rfl⟩
    refine ⟨template, htemplate, client, hclient, ?_⟩
    rw [if_pos happlies]
    exact List.mem_map_of_mem hperiod

theorem mem_loadTemplates {firm : Firm} {templateIds : List ObjectId} {template : Template} :
    template ∈ firm.loadTemplates templateIds ↔ template ∈ firm.templates ∧
      template.isActive = true ∧ (templateIds = [] ∨ template._id ∈ templateIds) := by
  simp [Firm.loadTemplates]

theorem mem_loadClientsForGeneration {firm : Firm} {clientIds : List String} {client : Client} :
    client ∈ firm.loadClientsForGeneration clientIds ↔ client ∈ firm.clients ∧
      client.isEligible = true ∧ (clientIds = [] ∨ client.clientId.text ∈ clientIds) := by
  simp [Firm.loadClientsForGeneration, Client.isEligible, and_assoc]

/-- A range that is accepted is not turned around. -/
theorem GenerationRequest.range_le {req : GenerationRequest} {range : Day × Day}
    (h : req.range = .ok range) : range.1 ≤ range.2 := by
  unfold GenerationRequest.range at h
  split at h
  · rename_i first last _ _
    split_ifs at h with hafter
    cases h
    by_contra hle
    refine hafter ?_
    rw [Instant.after, decide_eq_true_eq]
    exact Or.inl hle
  · cases h

/-- The request of whole days. -/
def GenerationRequest.ofDays (first last : Day) : GenerationRequest where
  rangeStart := some ⟨first, 0⟩
  rangeEnd := some ⟨last, 0⟩

theorem GenerationRequest.range_ofDays {first last : Day} (h : first ≤ last) :
    (GenerationRequest.ofDays first last).range = .ok (first, last) := by
  have hafter : Instant.after ⟨first, 0⟩ ⟨last, 0⟩ = false := by
    rw [Instant.after, decide_eq_false_iff_not]
    rintro (hlt | ⟨-, hlt⟩)
    · exact hlt h
    · exact absurd hlt (lt_irrefl 0)
  simp only [GenerationRequest.range, GenerationRequest.ofDays, hafter]
  rfl

/-- The candidates of a firm are those of its active templates, its eligible clients, and the
periods of the templates. -/
theorem Firm.isCandidate_iff {firm : Firm} {candidate : Candidate} :
    firm.IsCandidate candidate ↔
      ∃ template ∈ firm.templates, template.isActive = true ∧
        ∃ client ∈ firm.clients, client.isEligible = true ∧ template.appliesTo client = true ∧
          ∃ period, template.HasPeriod period ∧
            generationCandidate template client period = candidate := by
  constructor
  · rintro ⟨req, range, hrange, hcandidate⟩
    obtain ⟨template, htemplate, client, hclient, happlies, period, hperiod, heq⟩ :=
      mem_buildGenerationCandidates.mp hcandidate
    obtain ⟨htemplate, hactive, -⟩ := mem_loadTemplates.mp htemplate
    obtain ⟨hclient, heligible, -⟩ := mem_loadClientsForGeneration.mp hclient
    exact ⟨template, htemplate, hactive, client, hclient, heligible, happlies, period,
      ⟨range.1, range.2, GenerationRequest.range_le hrange, hperiod⟩, heq⟩
  · rintro ⟨template, htemplate, hactive, client, hclient, heligible, happlies, period,
      ⟨rangeStart, rangeEnd, hle, hperiod⟩, heq⟩
    refine ⟨.ofDays rangeStart rangeEnd, (rangeStart, rangeEnd),
      GenerationRequest.range_ofDays hle, ?_⟩
    exact mem_buildGenerationCandidates.mpr ⟨template,
      mem_loadTemplates.mpr ⟨htemplate, hactive, Or.inl rfl⟩, client,
      mem_loadClientsForGeneration.mpr ⟨hclient, heligible, Or.inl rfl⟩, happlies, period, hperiod,
      heq⟩

/-- Two periods of one template that start in one month are one period. -/
theorem Template.HasPeriod.ext {template : Template} {p q : Period} (hp : template.HasPeriod p)
    (hq : template.HasPeriod q) (h : p.periodStart.month = q.periodStart.month) : p = q := by
  obtain ⟨_, _, -, hp⟩ := hp
  obtain ⟨_, _, -, hq⟩ := hq
  exact period_ext hp hq h

/-- Two clients of a firm with one id are one client. -/
theorem Firm.client_ext {firm : Firm} {a b : Client} (ha : a ∈ firm.clients)
    (hb : b ∈ firm.clients) (h : a.clientId = b.clientId) : a = b :=
  List.inj_on_of_nodup_map firm.clients_nodup ha hb h

/-! ## Stores that runs leave -/

section

variable (isObjectId : String → Bool) (firm : Firm)

/-- The stores that runs over the firm's templates and clients leave. -/
inductive Reached : Store → Prop
  | empty : Reached Store.empty
  | run {store : Store} {req : GenerationRequest} {execute : Bool} {generation : Generation}
      (hstore : Reached store)
      (hrun : previewOrGenerate isObjectId firm req execute store = .ok generation) :
      Reached generation.store

/-- Every docket was generated for a candidate, under the candidate's key. -/
def Recorded (store : Store) : Prop :=
  ∀ docket ∈ store.dockets, ∃ candidate, firm.IsCandidate candidate ∧
    docket.generatedFor = some candidate ∧
    docket.idempotencyKey = StoredKey.ofKey candidate.idempotencyKey

/-- Two candidates with one stored key are of one template, one client, and one period. -/
def KeysIdentify : Prop :=
  ∀ a b, firm.IsCandidate a → firm.IsCandidate b →
    StoredKey.ofKey a.idempotencyKey = StoredKey.ofKey b.idempotencyKey →
    a.template = b.template ∧ a.client = b.client ∧ a.periodStart = b.periodStart ∧
      a.periodEnd = b.periodEnd

/-- What is skipped as a duplicate has a docket. -/
def SkipsOnlyDocketed : Prop :=
  ∀ store, Reached isObjectId firm store → ∀ req execute generation,
    previewOrGenerate isObjectId firm req execute store = .ok generation →
    ∀ range, req.range = .ok range → ∀ (i : ℕ) candidate item,
      (firm.candidates req range)[i]? = some candidate → generation.items[i]? = some item →
      item.status = .skipped_duplicate →
      ∃ docket ∈ generation.store.dockets, docket.generatedFor = some candidate

/-- No two active templates of one obligation type apply to one client and can have periods that
start in one month. -/
def TemplatesApart : Prop :=
  ∀ t₁ ∈ firm.templates, ∀ t₂ ∈ firm.templates, t₁.isActive = true → t₂.isActive = true →
    t₁ ≠ t₂ → t₁.obligationKey = t₂.obligationKey →
    ∀ client ∈ firm.clients, client.isEligible = true → t₁.appliesTo client = true →
      t₂.appliesTo client = true → ∀ p₁ p₂, t₁.HasPeriod p₁ → t₂.HasPeriod p₂ →
      p₁.periodStart ≠ p₂.periodStart

/-- The docket of the candidate is refused by the schema for another reason than its key, with a
message that the service takes for one about the key. -/
def Misreported (candidate : Candidate) : Prop :=
  ∃ actor ids, categoryOf candidate.template firm.resolveFallbackCategoryConfig = some ids ∧
    candidateErrors isObjectId actor firm.resolveFallbackCategoryConfig candidate ids ≠ [] ∧
    includes (schemaFailure (candidateErrors isObjectId actor firm.resolveFallbackCategoryConfig
      candidate ids)).message "idempotencyKey" = true

end

section

variable {isObjectId : String → Bool} {firm : Firm}

/-- The candidates of a request are candidates of the firm. -/
theorem Firm.isCandidate_of_mem {req : GenerationRequest} {range : Day × Day}
    (hrange : req.range = .ok range) {candidate : Candidate}
    (h : candidate ∈ firm.candidates req range) : firm.IsCandidate candidate :=
  ⟨req, range, hrange, h⟩

/-- Two candidates with one template, one client, and one period are one candidate. -/
theorem Firm.IsCandidate.ext {a b : Candidate} (ha : firm.IsCandidate a)
    (hb : firm.IsCandidate b) (htemplate : a.template = b.template) (hclient : a.client = b.client)
    (hstart : a.periodStart = b.periodStart) (hend : a.periodEnd = b.periodEnd) : a = b := by
  obtain ⟨t₁, -, -, c₁, -, -, -, p₁, -, rfl⟩ := Firm.isCandidate_iff.mp ha
  obtain ⟨t₂, -, -, c₂, -, -, -, p₂, -, rfl⟩ := Firm.isCandidate_iff.mp hb
  have ht : t₁ = t₂ := htemplate
  have hc : c₁ = c₂ := hclient
  have hp : p₁ = p₂ := Period.ext hstart hend
  rw [ht, hc, hp]

/-- The stored key of a candidate. -/
theorem ofKey_eq_iff {t₁ t₂ : Template} {c₁ c₂ : Client} {p₁ p₂ : Period} :
    StoredKey.ofKey (generationCandidate t₁ c₁ p₁).idempotencyKey =
        StoredKey.ofKey (generationCandidate t₂ c₂ p₂).idempotencyKey ↔
      storedKey t₁ c₁ p₁.periodStart = storedKey t₂ c₂ p₂.periodStart := by
  rw [StoredKey.ofKey_eq_iff, castIdempotencyKey_eq, castIdempotencyKey_eq]

/-- Templates that are apart have keys that identify. -/
theorem TemplatesApart.keysIdentify (h : TemplatesApart firm) : KeysIdentify firm := by
  intro a b ha hb hkey
  obtain ⟨t₁, ht₁, hactive₁, c₁, hc₁, heligible, happlies₁, p₁, hp₁, rfl⟩ :=
    Firm.isCandidate_iff.mp ha
  obtain ⟨t₂, ht₂, hactive₂, c₂, hc₂, -, happlies₂, p₂, hp₂, rfl⟩ := Firm.isCandidate_iff.mp hb
  obtain ⟨hclientId, htype, hmonth⟩ := storedKey_inj (ofKey_eq_iff.mp hkey)
  have hclient := Firm.client_ext hc₁ hc₂ hclientId
  subst hclient
  by_cases htemplate : t₁ = t₂
  · subst htemplate
    have hperiod := hp₁.ext hp₂ hmonth
    subst hperiod
    exact ⟨rfl, rfl, rfl, rfl⟩
  · obtain ⟨_, _, -, hmem₁⟩ := id hp₁
    obtain ⟨_, _, -, hmem₂⟩ := id hp₂
    refine absurd ?_ (h t₁ ht₁ t₂ ht₂ hactive₁ hactive₂ htemplate htype c₁ hc₁ heligible happlies₁
      happlies₂ p₁ p₂ hp₁ hp₂)
    rw [start_of_mem_expandRecurringPeriods hmem₁, start_of_mem_expandRecurringPeriods hmem₂,
      hmonth]

/-- Keys that identify are of templates that are apart. -/
theorem KeysIdentify.templatesApart (h : KeysIdentify firm) : TemplatesApart firm := by
  intro t₁ ht₁ t₂ ht₂ hactive₁ hactive₂ hne htype client hclient heligible happlies₁ happlies₂
    p₁ p₂ hp₁ hp₂ hstart
  have ha := Firm.isCandidate_iff.mpr
    ⟨t₁, ht₁, hactive₁, client, hclient, heligible, happlies₁, p₁, hp₁, rfl⟩
  have hb := Firm.isCandidate_iff.mpr
    ⟨t₂, ht₂, hactive₂, client, hclient, heligible, happlies₂, p₂, hp₂, rfl⟩
  exact hne (h _ _ ha hb (ofKey_eq_iff.mpr (storedKey_congr htype hstart client))).1

/-! ## Runs -/

/-- A run of a generation is its loop. -/
theorem previewOrGenerate_eq_ok {req : GenerationRequest} {execute : Bool} {store : Store}
    {generation : Generation} {range : Day × Day} (hrange : req.range = .ok range)
    (h : previewOrGenerate isObjectId firm req execute store = .ok generation) :
    let loop := generateAll isObjectId req.actor firm.resolveFallbackCategoryConfig execute
      (firm.candidates req range) ⟨existingKeys store (firm.candidates req range), store⟩
    generation.items = loop.1 ∧ generation.store = loop.2.store := by
  simp only [previewOrGenerate, hrange, Except.ok.injEq] at h
  subst h
  exact ⟨rfl, rfl⟩

/-- A round records what it generates. -/
theorem Round.recorded {actor : Actor} {fallbackCategory : Option CategoryConfig} {execute : Bool}
    {candidate : Candidate} {s s' : Progress} {item : Item}
    (h : Round isObjectId actor fallbackCategory execute candidate s item s')
    (hcandidate : firm.IsCandidate candidate) (hs : Recorded firm s.store) :
    Recorded firm s'.store := by
  cases h with
  | generated =>
    intro docket hdocket
    rcases List.mem_cons.mp hdocket with rfl | hdocket
    · exact ⟨candidate, hcandidate, rfl, rfl⟩
    · exact hs docket hdocket
  | _ => exact hs

/-- What holds in a run, before each round and at the end. -/
def Sound (firm : Firm) (s : Progress) : Prop := Recorded firm s.store ∧ KeysStored s

variable (isObjectId) in
theorem sound_round (actor : Actor) (execute : Bool) {req : GenerationRequest} {range : Day × Day}
    (hrange : req.range = .ok range) : ∀ candidate ∈ firm.candidates req range, ∀ s, Sound firm s →
      Sound firm (generateOne isObjectId actor firm.resolveFallbackCategoryConfig execute
        candidate s).2 := by
  intro candidate hcandidate s hs
  have hround := generateOne_round isObjectId actor firm.resolveFallbackCategoryConfig execute
    candidate s
  exact ⟨hround.recorded (Firm.isCandidate_of_mem hrange hcandidate) hs.1,
    hround.keysStored hs.2⟩

/-- Every docket of a store that runs leave is recorded. -/
theorem Reached.recorded {store : Store} (h : Reached isObjectId firm store) :
    Recorded firm store := by
  induction h with
  | empty => exact fun docket hdocket => absurd hdocket List.not_mem_nil
  | @run store req execute generation _ hrun ih =>
    cases hrange : req.range with
    | error e =>
      simp only [previewOrGenerate, hrange] at hrun
      cases hrun
    | ok range =>
      rw [(previewOrGenerate_eq_ok hrange hrun).2]
      exact (generateAll_preserves (I := Sound firm) _
        (sound_round isObjectId req.actor execute hrange) ⟨ih, existingKeys_stored store _⟩).1

/-- A candidate whose key is stored has a docket, where keys identify. -/
theorem KeysIdentify.docketed (h : KeysIdentify firm) {store : Store} (hstore : Recorded firm store)
    {candidate : Candidate} (hcandidate : firm.IsCandidate candidate)
    (hkey : StoredKey.ofKey candidate.idempotencyKey ∈ store.keys) :
    ∃ docket ∈ store.dockets, docket.generatedFor = some candidate := by
  obtain ⟨docket, hdocket, hdocketkey⟩ := List.mem_map.mp hkey
  obtain ⟨other, hother, hfor, hotherkey⟩ := hstore docket hdocket
  obtain ⟨htemplate, hclient, hstart, hend⟩ :=
    h other candidate hother hcandidate (by rw [← hotherkey, hdocketkey])
  have heq := hother.ext hcandidate htemplate hclient hstart hend
  exact ⟨docket, hdocket, by rw [hfor, heq]⟩

/-- A round skips what has a docket, where keys identify and no message misleads. -/
theorem Round.skipped_docketed {actor : Actor} {execute : Bool} {candidate : Candidate}
    {s s' : Progress} {item : Item}
    (h : Round isObjectId actor firm.resolveFallbackCategoryConfig execute candidate s item s')
    (hidentify : KeysIdentify firm) (hreported : ¬Misreported isObjectId firm candidate)
    (hcandidate : firm.IsCandidate candidate) (hs : Sound firm s)
    (hstatus : item.status = .skipped_duplicate) :
    ∃ docket ∈ s.store.dockets, docket.generatedFor = some candidate := by
  cases h with
  | missing _ _ hfailed => rw [hfailed] at hstatus; cases hstatus
  | found _ _ _ hfound => exact hidentify.docketed hs.1 hcandidate (hs.2 _ hfound)
  | ready _ _ _ _ _ hready => rw [hready] at hstatus; cases hstatus
  | generated _ _ _ _ _ _ _ hgenerated => rw [hgenerated] at hstatus; cases hstatus
  | duplicate _ _ _ _ _ _ hstored => exact hidentify.docketed hs.1 hcandidate hstored
  | invalid ids hcategory _ _ hinvalid =>
    -- The message of an invalid docket is the only other thing that the service goes by.
    refine absurd ⟨actor, ids, hcategory, hinvalid, ?_⟩ hreported
    by_contra hincludes
    unfold refusedItem at hstatus
    rw [if_neg] at hstatus
    · cases hstatus
    · rintro (hcode | hmessage)
      · cases hcode
      · exact hincludes hmessage

/-- Nothing is skipped that has no docket, where keys identify and no message misleads. -/
theorem KeysIdentify.skipsOnlyDocketed (h : KeysIdentify firm)
    (hreported : ∀ candidate, firm.IsCandidate candidate → ¬Misreported isObjectId firm candidate) :
    SkipsOnlyDocketed isObjectId firm := by
  intro store hstore req execute generation hrun range hrange i candidate item hcandidate hitem
    hstatus
  obtain ⟨hitems, hfinal⟩ := previewOrGenerate_eq_ok hrange hrun
  have his : firm.IsCandidate candidate :=
    Firm.isCandidate_of_mem hrange (List.mem_of_getElem? hcandidate)
  obtain ⟨before, hbefore, hmade, hsubset⟩ := exists_progress (I := Sound firm) _
    (sound_round isObjectId req.actor execute hrange)
    ⟨hstore.recorded, existingKeys_stored store _⟩ hcandidate
  rw [hitems, hmade, Option.some.injEq] at hitem
  subst hitem
  have hround := generateOne_round isObjectId req.actor firm.resolveFallbackCategoryConfig execute
    candidate before
  obtain ⟨docket, hdocket, hfor⟩ :=
    hround.skipped_docketed h (hreported candidate his) his hbefore hstatus
  rw [hfinal]
  exact ⟨docket, hsubset (hround.dockets_subset hdocket), hfor⟩

/-- Every docket is of a candidate that the schema finds nothing wrong with, in a run of the
actor's from a store without dockets. -/
def Valid (isObjectId : String → Bool) (firm : Firm) (actor : Actor) (s : Progress) : Prop :=
  ∀ docket ∈ s.store.dockets, ∃ candidate ids, docket.generatedFor = some candidate ∧
    categoryOf candidate.template firm.resolveFallbackCategoryConfig = some ids ∧
    candidateErrors isObjectId actor firm.resolveFallbackCategoryConfig candidate ids = []

theorem Round.valid {actor : Actor} {execute : Bool} {candidate : Candidate} {s s' : Progress}
    {item : Item}
    (h : Round isObjectId actor firm.resolveFallbackCategoryConfig execute candidate s item s')
    (hs : Valid isObjectId firm actor s) : Valid isObjectId firm actor s' := by
  cases h with
  | generated _ ids hcategory _ _ hvalid =>
    intro docket hdocket
    rcases List.mem_cons.mp hdocket with rfl | hdocket
    · exact ⟨candidate, ids, rfl, hcategory, hvalid⟩
    · exact hs docket hdocket
  | _ => exact hs

/-- A round skips a candidate whose refusal misleads. -/
theorem Round.skipped_of_includes {actor : Actor} {candidate : Candidate} {s s' : Progress}
    {item : Item} {ids : ObjectId × String}
    (h : Round isObjectId actor firm.resolveFallbackCategoryConfig true candidate s item s')
    (hcategory : categoryOf candidate.template firm.resolveFallbackCategoryConfig = some ids)
    (hinvalid : candidateErrors isObjectId actor firm.resolveFallbackCategoryConfig candidate ids
      ≠ [])
    (hincludes : includes (schemaFailure (candidateErrors isObjectId actor
      firm.resolveFallbackCategoryConfig candidate ids)).message "idempotencyKey" = true) :
    item.status = .skipped_duplicate := by
  cases h with
  | missing _ hnone => rw [hcategory] at hnone; cases hnone
  | found _ _ _ _ hstatus => exact hstatus
  | ready _ _ _ _ hexecute => cases hexecute
  | generated _ ids' hcategory' _ _ hvalid =>
    rw [hcategory] at hcategory'
    cases hcategory'
    exact absurd hvalid hinvalid
  | duplicate _ ids' hcategory' _ _ hvalid =>
    rw [hcategory] at hcategory'
    cases hcategory'
    exact absurd hvalid hinvalid
  | invalid ids' hcategory' =>
    rw [hcategory] at hcategory'
    cases hcategory'
    rw [refusedItem, if_pos (Or.inr hincludes)]
    rfl

/-- No message misleads where nothing is skipped that has no docket. -/
theorem SkipsOnlyDocketed.not_misreported (h : SkipsOnlyDocketed isObjectId firm)
    {candidate : Candidate} (hcandidate : firm.IsCandidate candidate) :
    ¬Misreported isObjectId firm candidate := by
  rintro ⟨actor, ids, hcategory, hinvalid, hincludes⟩
  obtain ⟨req, range, hrange, hmem⟩ := hcandidate
  obtain ⟨i, hi⟩ := List.mem_iff_getElem?.mp hmem
  -- The actor makes the request, of a firm without dockets.
  have hrange' : { req with actor := actor }.range = .ok range := hrange
  obtain ⟨generation, hrun⟩ : ∃ generation, previewOrGenerate isObjectId firm
      { req with actor := actor } true Store.empty = .ok generation := by
    simp only [previewOrGenerate, hrange']
    exact ⟨_, rfl⟩
  obtain ⟨hitems, hfinal⟩ := previewOrGenerate_eq_ok hrange' hrun
  have hround : ∀ c ∈ firm.candidates req range, ∀ s, Valid isObjectId firm actor s →
      Valid isObjectId firm actor (generateOne isObjectId actor firm.resolveFallbackCategoryConfig
        true c s).2 := fun c _ s hs =>
    (generateOne_round isObjectId actor firm.resolveFallbackCategoryConfig true c s).valid hs
  have hempty : Valid isObjectId firm actor
      ⟨existingKeys Store.empty (firm.candidates req range), Store.empty⟩ :=
    fun docket hdocket => absurd hdocket List.not_mem_nil
  obtain ⟨before, -, hmade, -⟩ := exists_progress _ hround hempty hi
  have hstatus := (generateOne_round isObjectId actor firm.resolveFallbackCategoryConfig true
    candidate before).skipped_of_includes hcategory hinvalid hincludes
  obtain ⟨docket, hdocket, hfor⟩ := h Store.empty .empty _ true generation hrun range hrange' i
    candidate _ hi (by rw [hitems]; exact hmade) hstatus
  rw [hfinal] at hdocket
  obtain ⟨other, ids', hother, hcategory', hvalid⟩ :=
    generateAll_preserves _ hround hempty docket hdocket
  rw [hfor, Option.some.injEq] at hother
  subst hother
  rw [hcategory, Option.some.injEq] at hcategory'
  subst hcategory'
  exact hinvalid hvalid

end

/-- A client that every template applies to. -/
def apexClient : Client := { clientId := ⟨"C000111", by decide⟩, businessName := some "Apex Pvt Ltd" }

/-- A firm with a monthly and a quarterly GST template, which both apply to its client. -/
def gstFirm : Firm where
  templates :=
    [{ _id := ⟨"683ae9998aa0f4c4740a7a11"⟩
       name := "GSTR-1"
       obligationType := some "GST"
       docketCategoryId := some ⟨"683ae9998aa0f4c4740a7a20"⟩
       docketSubcategoryId := some "sub-1" },
     { _id := ⟨"683ae9998aa0f4c4740a7a12"⟩
       name := "GSTR-4"
       obligationType := some "GST"
       recurrencePattern := { frequency := some "quarterly" }
       docketCategoryId := some ⟨"683ae9998aa0f4c4740a7a20"⟩
       docketSubcategoryId := some "sub-1" }]
  clients := [apexClient]
  categories := []
  templates_nodup := by decide
  clients_nodup := by decide

/-- The first day of January 2026. -/
def january : Day := firstOf (12 * 2026)

/-- The templates and periods that the dockets of a store were generated for. -/
def Store.obligations (store : Store) : List (Option (String × String)) :=
  store.dockets.map fun docket => docket.generatedFor.map fun c => (c.template.name, c.periodLabel)

end Docketra.Compliance
