import Docketra.Decimal
import Docketra.ComplianceGeneration

/-!
# The keys of the obligations

The stored key of a candidate is its client's id in lower case, the type of the obligation, and the
month in which the period starts (`ofKey_eq_iff`). The template is not in it, and neither is the
period's length.
-/

namespace Docketra.Compliance

open Calendar

/-! ## Period keys -/

/-- The number of a month is padded to two digits, from which it is read back. -/
theorem padStart2_month : ∀ m : Fin 12, (padStart2 (m.val + 1)).length = 2 ∧
    (padStart2 (m.val + 1)).toList.all isNumeric = true ∧
    ∀ n : Fin 12, padStart2 (m.val + 1) = padStart2 (n.val + 1) → m = n := by
  decide

/-- The place of a month in its year is below 12. -/
theorem exists_monthOf_eq (month : ℤ) : ∃ m : Fin 12, monthOf month = m.val := by
  have hlow : 0 ≤ monthOf month := Int.emod_nonneg _ (by omega)
  have hhigh : monthOf month < 12 := Int.emod_lt_of_pos _ (by omega)
  exact ⟨⟨(monthOf month).toNat, by omega⟩, by simp [Int.toNat_of_nonneg hlow]⟩

theorem toList_periodKeyFromStart (d : Day) : (periodKeyFromStart d).toList =
    (toString d.year).toList ++ '-' :: (padStart2 (monthOf d.month + 1)).toList := by
  simp [periodKeyFromStart]

theorem isNumeric_of_mem_periodKeyFromStart (d : Day) :
    ∀ c ∈ (periodKeyFromStart d).toList, isNumeric c = true := by
  intro c hc
  rw [toList_periodKeyFromStart] at hc
  rcases List.mem_append.mp hc with hc | hc
  · exact isNumeric_of_mem_toString hc
  · rcases List.mem_cons.mp hc with rfl | hc
    · rfl
    · obtain ⟨m, hm⟩ := exists_monthOf_eq d.month
      rw [hm] at hc
      exact List.all_eq_true.mp (padStart2_month m).2.1 c hc

/-- The key of a period names its month. -/
theorem periodKeyFromStart_inj {a b : Day} (h : periodKeyFromStart a = periodKeyFromStart b) :
    a.month = b.month := by
  rw [← String.toList_inj, toList_periodKeyFromStart, toList_periodKeyFromStart] at h
  obtain ⟨m, hm⟩ := exists_monthOf_eq a.month
  obtain ⟨n, hn⟩ := exists_monthOf_eq b.month
  rw [hm, hn] at h
  have hlength : ('-' :: (padStart2 (m.val + 1)).toList).length =
      ('-' :: (padStart2 (n.val + 1)).toList).length := by
    rw [List.length_cons, List.length_cons, String.length_toList, String.length_toList,
      (padStart2_month m).1, (padStart2_month n).1]
  obtain ⟨hyear, hpad⟩ := List.append_inj' h hlength
  have hyear := toString_int_injective (String.toList_inj.mp hyear)
  have hmonth := (padStart2_month m).2.2 n (String.toList_inj.mp (List.cons.inj hpad).2)
  have ha := Int.mul_ediv_add_emod a.month 12
  have hb := Int.mul_ediv_add_emod b.month 12
  unfold Day.year yearOf at hyear
  unfold monthOf at hm hn
  rw [hmonth] at hm
  omega

/-! ## Client ids -/

/-- A client id is `C` and digits. -/
theorem ClientId.toList_text (clientId : ClientId) : ∃ digits : List Char,
    clientId.text.toList = 'C' :: digits ∧ ∀ c ∈ digits, isNumeric c = true := by
  have h := clientId.generated
  unfold isGenerated at h
  split at h
  · rename_i digits heq
    exact ⟨digits, heq, fun c hc => isNumeric_of_isDigit (List.all_eq_true.mp h c hc)⟩
  · exact absurd h Bool.false_ne_true

theorem map_toLower_of_isNumeric {l : List Char} (h : ∀ c ∈ l, isNumeric c = true) :
    l.map Char.toLower = l := by
  rw [List.map_congr_left fun c hc => toLower_of_isNumeric (h c hc), List.map_id']

theorem toLowerCase_of_isNumeric {s : String} (h : ∀ c ∈ s.toList, isNumeric c = true) :
    toLowerCase s = s := by
  rw [toLowerCase, map_toLower_of_isNumeric h, String.ofList_toList]

/-- A client id in lower case is `c` and the digits. -/
theorem ClientId.toList_toLowerCase (clientId : ClientId) : ∃ digits : List Char,
    clientId.text.toList = 'C' :: digits ∧ (toLowerCase clientId.text).toList = 'c' :: digits ∧
      ∀ c ∈ digits, isNumeric c = true := by
  obtain ⟨digits, htext, hdigits⟩ := clientId.toList_text
  refine ⟨digits, htext, ?_, hdigits⟩
  rw [toLowerCase, String.toList_ofList, htext, List.map_cons, map_toLower_of_isNumeric hdigits]
  rfl

/-- Lower-casing keeps client ids apart. -/
theorem ClientId.toLowerCase_inj {a b : ClientId} (h : toLowerCase a.text = toLowerCase b.text) :
    a = b := by
  obtain ⟨da, ha, hla, -⟩ := a.toList_toLowerCase
  obtain ⟨db, hb, hlb, -⟩ := b.toList_toLowerCase
  have hdigits : da = db := by
    rw [← String.toList_inj, hla, hlb] at h
    exact (List.cons.inj h).2
  have htext : a.text = b.text := by rw [← String.toList_inj, ha, hb, hdigits]
  cases a
  cases b
  cases htext
  rfl

/-- There is no separator in a client id. -/
theorem ClientId.colon_notMem (clientId : ClientId) :
    ':' ∉ (toLowerCase clientId.text).toList := by
  obtain ⟨digits, -, hlower, hdigits⟩ := clientId.toList_toLowerCase
  rw [hlower]
  intro hmem
  rcases List.mem_cons.mp hmem with h | h
  · exact absurd h (by decide)
  · exact colon_notMem_of_isNumeric hdigits h

/-! ## Stored keys -/

/-- The stored key of the docket of a template, a client, and the start of a period. -/
def storedKey (template : Template) (client : Client) (periodStart : Day) : String :=
  "compliance:" ++ toLowerCase client.clientId.text ++ ":" ++ template.obligationKey ++ ":" ++
    periodKeyFromStart periodStart

/-- There is nothing to trim of the key of a candidate. -/
theorem trim_idempotencyKey (template : Template) (client : Client) (period : Period) :
    trim (generationCandidate template client period).idempotencyKey =
      (generationCandidate template client period).idempotencyKey := by
  have hkey := isNumeric_of_mem_periodKeyFromStart period.periodStart
  rw [← String.toList_inj, trim, String.toList_ofList]
  refine trimList_eq_self ?_ ?_
  · intro c hc
    rw [generationCandidate] at hc
    simp only [String.toList_append, List.append_assoc] at hc
    have : c = 'c' := by simpa [eq_comm] using hc
    subst this
    rfl
  · -- The last character is the last one of the period's key.
    intro c hc
    have hnil : (periodKeyFromStart period.periodStart).toList ≠ [] := by
      rw [toList_periodKeyFromStart]
      simp
    rw [generationCandidate] at hc
    simp only [String.toList_append] at hc
    rw [List.getLast?_append_of_ne_nil _ hnil] at hc
    exact not_isWhitespace_of_isNumeric (hkey c (List.mem_of_getLast? hc))

/-- What is stored of the key of a candidate. -/
theorem castIdempotencyKey_eq (template : Template) (client : Client) (period : Period) :
    castIdempotencyKey (generationCandidate template client period).idempotencyKey =
      storedKey template client period.periodStart := by
  have hperiod := toLowerCase_of_isNumeric (isNumeric_of_mem_periodKeyFromStart period.periodStart)
  have htype : toLowerCase template.obligationKey = template.obligationKey :=
    toLowerCase_toLowerCase _
  rw [castIdempotencyKey, trim_idempotencyKey]
  simp only [generationCandidate, toLowerCase_append, hperiod, htype]
  rfl

theorem toList_storedKey (template : Template) (client : Client) (periodStart : Day) :
    (storedKey template client periodStart).toList =
      "compliance:".toList ++ ((toLowerCase client.clientId.text).toList ++
        ':' :: (template.obligationKey.toList ++ ':' :: (periodKeyFromStart periodStart).toList)) := by
  have hcolon : ":".toList = [':'] := rfl
  delta storedKey
  simp only [String.toList_append, hcolon, List.append_assoc, List.cons_append,
    List.nil_append]

/-- Nothing else of a template is in its keys than the type of the obligation. -/
theorem storedKey_congr {t₁ t₂ : Template} {d₁ d₂ : Day} (htype : t₁.obligationKey = t₂.obligationKey)
    (hstart : d₁ = d₂) (client : Client) : storedKey t₁ client d₁ = storedKey t₂ client d₂ := by
  delta storedKey
  rw [htype, hstart]

/-- The stored key names the client, the type of the obligation, and the month. -/
theorem storedKey_inj {t₁ t₂ : Template} {c₁ c₂ : Client} {d₁ d₂ : Day}
    (h : storedKey t₁ c₁ d₁ = storedKey t₂ c₂ d₂) :
    c₁.clientId = c₂.clientId ∧ t₁.obligationKey = t₂.obligationKey ∧ d₁.month = d₂.month := by
  rw [← String.toList_inj, toList_storedKey, toList_storedKey] at h
  have hrest := List.append_cancel_left h
  obtain ⟨hclient, hrest⟩ := append_cons_inj_left c₁.clientId.colon_notMem
    c₂.clientId.colon_notMem hrest
  obtain ⟨htype, hperiod⟩ := append_cons_inj_right
    (colon_notMem_of_isNumeric (isNumeric_of_mem_periodKeyFromStart d₁))
    (colon_notMem_of_isNumeric (isNumeric_of_mem_periodKeyFromStart d₂)) hrest
  exact ⟨ClientId.toLowerCase_inj (String.toList_inj.mp hclient), String.toList_inj.mp htype,
    periodKeyFromStart_inj (String.toList_inj.mp hperiod)⟩

end Docketra.Compliance
