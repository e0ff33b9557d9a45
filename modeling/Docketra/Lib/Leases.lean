import Docketra.Lib.Expiring

/-!
# Leases of keys

Requests lease keys of a store whose entries expire: each request has a token of its own, and the
key that it leases has an entry with this token, until the lease ends or is given back. `Owned` says
that the entries of a request, as they are found at a time, are exactly what is left of its lease.
It is kept by what a lock does: an entry is written where none is found, and is removed by the
request whose token it has. So two leases of one key do not run at the same time (`Owned.unique`).
-/

namespace Leases

open Expiring

variable {κ τ : Type}

/-- A key, and the time at which the lease of it ends. -/
structure Lease (κ : Type) where
  key : κ
  expires : ℕ
  deriving DecidableEq, Repr

/-- The entries with a token are the lease, while it runs. -/
def Owned (now : ℕ) (entries : Store κ τ) (token : τ) (lease : Option (Lease κ)) : Prop :=
  ∀ key expires, live now (entries key) = some ⟨token, expires⟩ ↔
    lease = some ⟨key, expires⟩ ∧ now < expires

/-- Every entry has the token of a request. -/
def Attributed (entries : Store κ τ) (token : ℕ → τ) : Prop :=
  ∀ key entry, entries key = some entry → ∃ r, entry.value = token r

/-- The entry of a key is removed if it has the token, as far as can be found at a time. -/
structure Removes (now : ℕ) (key : κ) (token : τ) (entries entries' : Store κ τ) : Prop where
  gone : get now key entries = some token → live now (entries' key) = none
  kept : ∀ k, k ≠ key ∨ get now key entries ≠ some token →
    live now (entries' k) = live now (entries k)

variable {now : ℕ} {entries entries' : Store κ τ} {token : τ} {lease : Option (Lease κ)}

/-- A running lease has its entry. -/
theorem Owned.entry (h : Owned now entries token lease) {l : Lease κ} (hl : lease = some l)
    (hrun : now < l.expires) : live now (entries l.key) = some ⟨token, l.expires⟩ :=
  (h l.key l.expires).mpr ⟨hl, hrun⟩

/-- Two requests with running leases of one key have one token. -/
theorem Owned.unique {token' : τ} {l l' : Lease κ} (h : Owned now entries token (some l))
    (h' : Owned now entries token' (some l')) (hkey : l.key = l'.key) (hrun : now < l.expires)
    (hrun' : now < l'.expires) : token = token' := by
  have hentry := h.entry rfl hrun
  rw [hkey, h'.entry rfl hrun'] at hentry
  exact (congrArg Entry.value (Option.some.inj hentry)).symm

/-- A request whose token has not been written has no lease. -/
theorem Owned.of_empty : Owned now (empty : Store κ τ) token none :=
  fun _ _ => ⟨fun h => (nomatch h), fun h => (nomatch h.1)⟩

/-- While time passes, leases end as their entries do. -/
theorem Owned.later (h : Owned now entries token lease) {later : ℕ} (hle : now ≤ later) :
    Owned later entries token lease := by
  intro key expires
  have hnow := h key expires
  rw [live_eq_some] at hnow ⊢
  constructor
  · rintro ⟨hentry, hrun⟩
    exact ⟨(hnow.mp ⟨hentry, Nat.lt_of_le_of_lt hle hrun⟩).1, hrun⟩
  · rintro ⟨hlease, hrun⟩
    exact ⟨(hnow.mpr ⟨hlease, Nat.lt_of_le_of_lt hle hrun⟩).1, hrun⟩

/-- What is found of a key is all that counts. -/
theorem Owned.congr (h : Owned now entries token lease)
    (heq : ∀ k, live now (entries' k) = live now (entries k)) :
    Owned now entries' token lease := by
  intro key expires
  rw [heq]
  exact h key expires

variable [DecidableEq κ]

/-- A request without a lease gets one where nothing is found. -/
theorem Owned.grant (h : Owned now entries token none) {key : κ} (ttl : ℕ) :
    Owned now (setEX now key token ttl entries) token (some ⟨key, now + ttl⟩) := by
  intro k expires
  by_cases hk : k = key
  · subst hk
    rw [setEX_same, live_eq_some, Option.some.injEq, Option.some.injEq, Entry.mk.injEq,
      Lease.mk.injEq]
    simp only [true_and]
  · rw [setEX_other hk]
    have hnone := h k expires
    constructor
    · intro hlive
      exact nomatch (hnone.mp hlive).1
    · rintro ⟨hlease, -⟩
      exact absurd (congrArg Lease.key (Option.some.inj hlease)).symm hk

/-- The lease of another token is not disturbed by a grant where nothing is found. -/
theorem Owned.grant_other (h : Owned now entries token lease) {key : κ} {other : τ}
    (hne : other ≠ token) (hfree : live now (entries key) = none) (ttl : ℕ) :
    Owned now (setEX now key other ttl entries) token lease := by
  intro k expires
  by_cases hk : k = key
  · subst hk
    rw [setEX_same, live_eq_some, ← h k expires, hfree]
    constructor
    · rintro ⟨hentry, -⟩
      exact absurd (congrArg Entry.value (Option.some.inj hentry)) hne
    · exact fun hnone => nomatch hnone
  · rw [setEX_other hk]
    exact h k expires

theorem Attributed.grant {token : ℕ → τ} (h : Attributed entries token) (r : ℕ) (key : κ)
    (ttl : ℕ) : Attributed (setEX now key (token r) ttl entries) token := by
  intro k entry hentry
  by_cases hk : k = key
  · subst hk
    rw [setEX_same, Option.some.injEq] at hentry
    exact ⟨r, (congrArg Entry.value hentry).symm⟩
  · rw [setEX_other hk] at hentry
    exact h k entry hentry

theorem Attributed.del {token : ℕ → τ} (h : Attributed entries token) (key : κ) :
    Attributed (del key entries) token := by
  intro k entry hentry
  by_cases hk : k = key
  · subst hk
    rw [del_same] at hentry
    exact nomatch hentry
  · rw [del_other hk] at hentry
    exact h k entry hentry

/-- An entry with the token is removed, whether it is found or not. -/
theorem removes_del {key : κ} (h : (entries key).map Entry.value = some token) :
    Removes now key token entries (del key entries) where
  gone _ := by rw [del_same]; rfl
  kept k hk := by
    by_cases hkey : k = key
    · subst hkey
      have hget : get now k entries ≠ some token := hk.resolve_left fun hne => hne rfl
      cases hlive : live now (entries k) with
      | none => rw [del_same]; rfl
      | some e =>
        rw [(live_eq_some.mp hlive).1] at h
        exact absurd ((get_of_some hlive).trans h) hget
    · rw [del_other hkey]

omit [DecidableEq κ] in
/-- Nothing is removed from under another token. -/
theorem removes_nothing {key : κ} (h : get now key entries ≠ some token) :
    Removes now key token entries entries :=
  ⟨fun hget => absurd hget h, fun _ _ => rfl⟩

omit [DecidableEq κ] in
/-- The lease of another token is not disturbed by a removal. -/
theorem Owned.remove_other (h : Owned now entries token lease) {key : κ} {other : τ}
    (hne : other ≠ token) (hremoves : Removes now key other entries entries') :
    Owned now entries' token lease := by
  intro k expires
  by_cases hk : k = key ∧ get now key entries = some other
  · obtain ⟨rfl, hget⟩ := hk
    rw [hremoves.gone hget, ← h k expires]
    constructor
    · exact fun hlive => nomatch hlive
    · intro hlive
      rw [get_of_some hlive] at hget
      exact absurd (Option.some.inj hget).symm hne
  · rw [hremoves.kept k (not_and_or.mp hk)]
    exact h k expires

omit [DecidableEq κ] in
/-- A request that removes the entry of its lease has none. -/
theorem Owned.remove_self {l : Lease κ} (h : Owned now entries token (some l))
    (hremoves : Removes now l.key token entries entries') : Owned now entries' token none := by
  intro k expires
  constructor
  · intro hlive
    by_cases hk : k = l.key ∧ get now l.key entries = some token
    · rw [hk.1, hremoves.gone hk.2] at hlive
      exact nomatch hlive
    · rw [hremoves.kept k (not_and_or.mp hk)] at hlive
      obtain ⟨hlease, -⟩ := (h k expires).mp hlive
      have hkey : k = l.key := (congrArg Lease.key (Option.some.inj hlease)).symm
      subst hkey
      exact absurd ⟨rfl, get_of_some hlive⟩ hk
  · exact fun hlease => nomatch hlease.1

omit [DecidableEq κ] in
/-- A request that removes from another key keeps its lease: its token is under one key alone. -/
theorem Owned.remove_elsewhere {l : Lease κ} (h : Owned now entries token (some l)) {key : κ}
    (hkey : key ≠ l.key) (hremoves : Removes now key token entries entries') :
    Owned now entries' token (some l) := by
  have hget : get now key entries ≠ some token := by
    intro hget
    obtain ⟨e, hlive, hvalue⟩ := Option.map_eq_some_iff.mp hget
    rw [← hvalue] at h
    obtain ⟨hlease, -⟩ := (h key e.expires).mp hlive
    exact hkey (congrArg Lease.key (Option.some.inj hlease)).symm
  exact h.congr fun k => hremoves.kept k (.inr hget)

end Leases
