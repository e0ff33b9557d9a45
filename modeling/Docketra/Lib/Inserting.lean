import Mathlib.Logic.Function.Basic
import Mathlib.Data.Nat.Notation
import Mathlib.Data.Option.Basic
import Mathlib.Tactic.Common

/-!
# Records that are inserted once

A store has at most one record for a key, and no record is changed or deleted. Records are inserted
in transactions with snapshot isolation, or outside of them. A transaction sees the records that were
stored when it began and those that it has inserted. An insertion of a key that another transaction
has inserted, or that has been stored in the meantime, is a conflict in a transaction and waits
outside of one.

The record that is `current` to a party is the one it has inserted, or the stored one. In a sound
store, what a party sees is current to it (`Sound.current_of_visible`), and what is current to it
stays current until its transaction ends (`Follows`). A commit stores it.
-/

namespace Inserting

/-- The records, and the open transactions, which are numbered as they begin. -/
structure Store (κ ν : Type) where
  stored : κ → Option ν
  /-- The record of a key that an open transaction has inserted, with the transaction. -/
  inserted : κ → Option (ℕ × ν)
  /-- The records that were stored when an open transaction began. -/
  snapshot : ℕ → Option (κ → Option ν)
  begun : ℕ

namespace Store

variable {κ ν : Type}

/-- A store without transactions. -/
def initial (stored : κ → Option ν) : Store κ ν where
  stored := stored
  inserted _ := none
  snapshot _ := none
  begun := 0

/-- The transaction is open. -/
def isOpen (s : Store κ ν) (i : ℕ) : Bool := (s.snapshot i).isSome

/-- The record of a key that a party has inserted. -/
def own (s : Store κ ν) (party : Option ℕ) (k : κ) : Option ν :=
  match s.inserted k with
  | some (owner, v) => if party = some owner then some v else none
  | none => none

/-- The record of a key that a party sees. Outside of open transactions, it sees the stored ones. -/
def visible (s : Store κ ν) (party : Option ℕ) (k : κ) : Option ν :=
  (s.own party k).or ((party.bind s.snapshot).getD s.stored k)

/-- The record of a key that a party has inserted, or the stored one. -/
def current (s : Store κ ν) (party : Option ℕ) (k : κ) : Option ν :=
  (s.own party k).or (s.stored k)

/-- A transaction begins. -/
def begin (s : Store κ ν) : Store κ ν :=
  { s with
    snapshot := Function.update s.snapshot s.begun (some s.stored)
    begun := s.begun + 1 }

/-- Inserts a record for a key, unless the party sees one. There is no result on a conflict. -/
def insert [DecidableEq κ] (s : Store κ ν) (party : Option ℕ) (k : κ) (v : ν) :
    Option (Store κ ν) :=
  if (s.visible party k).isSome then some s
  else
    match party.filter s.isOpen with
    | some i =>
      if (s.inserted k).isSome || (s.stored k).isSome then none
      else some { s with inserted := Function.update s.inserted k (some (i, v)) }
    | none =>
      -- it waits for the transaction that has inserted the key
      if (s.inserted k).isSome then some s
      else some { s with stored := Function.update s.stored k (some v) }

/-- The insertions of the other transactions. -/
def insertedByOthers (s : Store κ ν) (i : ℕ) (k : κ) : Option (ℕ × ν) :=
  (s.inserted k).filter fun record => record.1 ≠ i

/-- A transaction is aborted. -/
def abort (s : Store κ ν) (i : ℕ) : Store κ ν :=
  { s with
    inserted := s.insertedByOthers i
    snapshot := Function.update s.snapshot i none }

/-- A transaction is committed. -/
def commit (s : Store κ ν) (i : ℕ) : Store κ ν :=
  { s with
    stored := s.current (some i)
    inserted := s.insertedByOthers i
    snapshot := Function.update s.snapshot i none }

/-- Insertions are of open transactions and of keys without a stored record, and a snapshot has
stored records only. -/
structure Sound (s : Store κ ν) : Prop where
  inserted_fresh : ∀ k owner v, s.inserted k = some (owner, v) → s.stored k = none
  inserted_open : ∀ k owner v, s.inserted k = some (owner, v) → s.isOpen owner = true
  snapshot_stored : ∀ i view k v, s.snapshot i = some view → view k = some v → s.stored k = some v
  open_begun : ∀ i, s.isOpen i = true → i < s.begun

/-! ## What is current -/

theorem own_eq_some {s : Store κ ν} {party : Option ℕ} {k : κ} {v : ν} :
    s.own party k = some v ↔ ∃ owner, party = some owner ∧ s.inserted k = some (owner, v) := by
  unfold own
  cases s.inserted k with
  | none => simp
  | some record =>
    obtain ⟨owner, w⟩ := record
    by_cases h : party = some owner <;> simp [h]

theorem current_eq_some {s : Store κ ν} {party : Option ℕ} {k : κ} {v : ν} :
    s.current party k = some v ↔
      s.own party k = some v ∨ s.own party k = none ∧ s.stored k = some v := by
  unfold current
  cases s.own party k <;> simp

theorem own_none {s : Store κ ν} {k : κ} : s.own none k = none := by
  rw [Option.eq_none_iff_forall_ne_some]
  intro v h
  obtain ⟨owner, howner, _⟩ := own_eq_some.1 h
  cases howner

theorem current_none {s : Store κ ν} {k : κ} : s.current none k = s.stored k := by
  rw [current, own_none, Option.none_or]

/-- A key without an inserted and a stored record has no current one. -/
theorem current_eq_none {s : Store κ ν} {party : Option ℕ} {k : κ} (hinserted : s.inserted k = none)
    (hstored : s.stored k = none) : s.current party k = none := by
  rw [current, own, hinserted, hstored]
  rfl

/-- A stored record is current to every party. -/
theorem Sound.current_of_stored {s : Store κ ν} (h : s.Sound) (party : Option ℕ) {k : κ} {v : ν}
    (hstored : s.stored k = some v) : s.current party k = some v := by
  refine current_eq_some.2 (.inr ⟨?_, hstored⟩)
  rw [Option.eq_none_iff_forall_ne_some]
  intro w hown
  obtain ⟨owner, _, hinserted⟩ := own_eq_some.1 hown
  rw [h.inserted_fresh k owner w hinserted] at hstored
  cases hstored

/-- What a party sees is current to it. -/
theorem Sound.current_of_visible {s : Store κ ν} (h : s.Sound) {party : Option ℕ} {k : κ} {v : ν}
    (hvisible : s.visible party k = some v) : s.current party k = some v := by
  unfold visible at hvisible
  cases hown : s.own party k with
  | some w =>
    rw [hown, Option.some_or] at hvisible
    exact current_eq_some.2 (.inl (hown.trans hvisible))
  | none =>
    rw [hown, Option.none_or] at hvisible
    refine current_eq_some.2 (.inr ⟨hown, ?_⟩)
    cases hview : party.bind s.snapshot with
    | none => rwa [hview, Option.getD_none] at hvisible
    | some view =>
      obtain ⟨i, _, hsnapshot⟩ := Option.bind_eq_some_iff.1 hview
      rw [hview, Option.getD_some] at hvisible
      exact h.snapshot_stored i view k v hsnapshot hvisible

/-! ## The operations keep what is current -/

/-- An insertion, when it is no conflict, leaves the store, or adds a record for a key that has no
current one. -/
theorem insert_cases [DecidableEq κ] {s s' : Store κ ν} {party : Option ℕ} {k : κ} {v : ν}
    (h : s.insert party k v = some s') :
    s' = s ∨ s.inserted k = none ∧ s.stored k = none ∧
      ((∃ i, s.isOpen i = true ∧
          s' = { s with inserted := Function.update s.inserted k (some (i, v)) }) ∨
        s' = { s with stored := Function.update s.stored k (some v) }) := by
  unfold insert at h
  by_cases hvisible : (s.visible party k).isSome = true
  · rw [if_pos hvisible] at h
    exact .inl (Option.some.inj h).symm
  · rw [if_neg hvisible] at h
    cases hparty : party.filter s.isOpen with
    | some i =>
      rw [hparty] at h
      dsimp only at h
      split_ifs at h with htaken
      rw [Bool.or_eq_true, not_or, Option.not_isSome_iff_eq_none, Option.not_isSome_iff_eq_none]
        at htaken
      exact .inr ⟨htaken.1, htaken.2, .inl ⟨i, (Option.filter_eq_some_iff.1 hparty).2,
        (Option.some.inj h).symm⟩⟩
    | none =>
      rw [hparty] at h
      dsimp only at h
      split_ifs at h with htaken
      · exact .inl (Option.some.inj h).symm
      · rw [Option.not_isSome_iff_eq_none] at htaken
        have hsnapshot : party.bind s.snapshot = none := by
          rw [Option.eq_none_iff_forall_ne_some]
          intro view hview
          obtain ⟨i, rfl, hi⟩ := Option.bind_eq_some_iff.1 hview
          simp [Option.filter, isOpen, hi] at hparty
        rw [visible, hsnapshot, Option.getD_none, own, htaken, Option.none_or,
          Option.not_isSome_iff_eq_none] at hvisible
        exact .inr ⟨htaken, hvisible, .inr (Option.some.inj h).symm⟩

theorem current_insert [DecidableEq κ] {s s' : Store κ ν} {party : Option ℕ} {k : κ} {v : ν}
    (h : s.insert party k v = some s') {party' : Option ℕ} {k' : κ} {v' : ν}
    (hcurrent : s.current party' k' = some v') : s'.current party' k' = some v' := by
  obtain rfl | ⟨hinserted, hstored, hs'⟩ := insert_cases h
  · exact hcurrent
  · have hne : k' ≠ k := by
      rintro rfl
      rw [current_eq_none hinserted hstored] at hcurrent
      cases hcurrent
    obtain ⟨i, _, rfl⟩ | rfl := hs'
    · rw [← hcurrent]
      simp only [current, own, Function.update_of_ne hne]
    · rw [← hcurrent]
      simp only [current, own, Function.update_of_ne hne]

theorem own_ended {s s' : Store κ ν} {i : ℕ} (hinserted : s'.inserted = s.insertedByOthers i)
    {party : Option ℕ} (hparty : party ≠ some i) (k : κ) : s'.own party k = s.own party k := by
  unfold own
  rw [hinserted, insertedByOthers]
  cases s.inserted k with
  | none => rfl
  | some record =>
    obtain ⟨owner, v⟩ := record
    by_cases howner : owner = i
    · subst howner
      simp [Option.filter, hparty]
    · simp [Option.filter, howner]

theorem current_abort (s : Store κ ν) {i : ℕ} {party : Option ℕ} (hparty : party ≠ some i) (k : κ) :
    (s.abort i).current party k = s.current party k := by
  unfold current
  rw [own_ended (s := s) rfl hparty]
  rfl

theorem Sound.current_commit {s : Store κ ν} (h : s.Sound) {i : ℕ} {party : Option ℕ}
    (hparty : party ≠ some i) {k : κ} {v : ν} (hcurrent : s.current party k = some v) :
    (s.commit i).current party k = some v := by
  rw [current_eq_some, own_ended (s := s) rfl hparty]
  refine (current_eq_some.1 hcurrent).imp_right fun hstored => ⟨hstored.1, ?_⟩
  exact h.current_of_stored (some i) hstored.2

/-! ## The operations keep the store sound -/

theorem sound_initial (stored : κ → Option ν) : (initial stored).Sound where
  inserted_fresh _ _ _ h := by cases h
  inserted_open _ _ _ h := by cases h
  snapshot_stored _ _ _ _ h := by cases h
  open_begun _ h := by cases h

theorem isOpen_begin {s : Store κ ν} (i : ℕ) :
    s.begin.isOpen i = true ↔ i = s.begun ∨ s.isOpen i = true := by
  unfold begin isOpen
  dsimp only
  by_cases h : i = s.begun
  · rw [h, Function.update_self]
    simp
  · rw [Function.update_of_ne h]
    simp [h]

theorem Sound.begin {s : Store κ ν} (h : s.Sound) : s.begin.Sound where
  inserted_fresh := h.inserted_fresh
  inserted_open k owner v hinserted :=
    (isOpen_begin owner).2 (.inr (h.inserted_open k owner v hinserted))
  snapshot_stored i view k v hview hv := by
    unfold Store.begin at hview
    dsimp only at hview
    by_cases hi : i = s.begun
    · rw [hi, Function.update_self] at hview
      rw [← Option.some.inj hview] at hv
      exact hv
    · rw [Function.update_of_ne hi] at hview
      exact h.snapshot_stored i view k v hview hv
  open_begun i hi := by
    change i < s.begun + 1
    rcases (isOpen_begin i).1 hi with rfl | hi
    · omega
    · have hlt := h.open_begun i hi
      omega

theorem Sound.insert [DecidableEq κ] {s s' : Store κ ν} (h : s.Sound) {party : Option ℕ} {k : κ}
    {v : ν} (hinsert : s.insert party k v = some s') : s'.Sound := by
  obtain rfl | ⟨hinserted, hstored, hs'⟩ := insert_cases hinsert
  · exact h
  · obtain ⟨i, hi, rfl⟩ | rfl := hs'
    · refine ⟨fun k' owner w hk' => ?_, fun k' owner w hk' => ?_, h.snapshot_stored, h.open_begun⟩
      · dsimp only at hk'
        by_cases hne : k' = k
        · exact hne ▸ hstored
        · exact h.inserted_fresh k' owner w (by rwa [Function.update_of_ne hne] at hk')
      · dsimp only at hk'
        by_cases hne : k' = k
        · rw [hne, Function.update_self] at hk'
          cases hk'
          exact hi
        · exact h.inserted_open k' owner w (by rwa [Function.update_of_ne hne] at hk')
    · refine ⟨fun k' owner w hk' => ?_, h.inserted_open, fun i view k' w hview hw => ?_,
        h.open_begun⟩
      · have hne : k' ≠ k := by
          rintro rfl
          rw [hinserted] at hk'
          cases hk'
        exact (Function.update_of_ne hne _ _).trans (h.inserted_fresh k' owner w hk')
      · have hne : k' ≠ k := by
          rintro rfl
          have hold := h.snapshot_stored i view k' w hview hw
          rw [hstored] at hold
          cases hold
        exact (Function.update_of_ne hne _ _).trans (h.snapshot_stored i view k' w hview hw)

theorem isOpen_ended {s s' : Store κ ν} {i : ℕ}
    (hsnapshot : s'.snapshot = Function.update s.snapshot i none) (j : ℕ) :
    s'.isOpen j = true ↔ j ≠ i ∧ s.isOpen j = true := by
  unfold isOpen
  rw [hsnapshot]
  by_cases hj : j = i
  · rw [hj, Function.update_self]
    simp
  · rw [Function.update_of_ne hj]
    simp [hj]

theorem insertedByOthers_eq_some {s : Store κ ν} {i owner : ℕ} {k : κ} {v : ν} :
    s.insertedByOthers i k = some (owner, v) ↔ s.inserted k = some (owner, v) ∧ owner ≠ i := by
  unfold insertedByOthers
  rw [Option.filter_eq_some_iff]
  simp

/-- A transaction that ends leaves a sound store, when it leaves or stores its insertions. -/
theorem Sound.ended {s s' : Store κ ν} (h : s.Sound) {i : ℕ}
    (hinserted : s'.inserted = s.insertedByOthers i)
    (hsnapshot : s'.snapshot = Function.update s.snapshot i none) (hbegun : s'.begun = s.begun)
    (hstored : s'.stored = s.stored ∨ s'.stored = s.current (some i)) : s'.Sound where
  inserted_fresh k owner v hk := by
    rw [hinserted, insertedByOthers_eq_some] at hk
    have hfresh := h.inserted_fresh k owner v hk.1
    rcases hstored with hstored | hstored
    · rw [hstored]
      exact hfresh
    · have hown : s.own (some i) k = none := by
        rw [own, hk.1]
        exact if_neg fun howner => hk.2 (Option.some.inj howner).symm
      rw [hstored, current, hown, hfresh]
      rfl
  inserted_open k owner v hk := by
    rw [hinserted, insertedByOthers_eq_some] at hk
    exact (isOpen_ended hsnapshot owner).2 ⟨hk.2, h.inserted_open k owner v hk.1⟩
  snapshot_stored j view k v hview hv := by
    have hne : j ≠ i := by
      rintro rfl
      rw [hsnapshot, Function.update_self] at hview
      cases hview
    rw [hsnapshot, Function.update_of_ne hne] at hview
    have hold := h.snapshot_stored j view k v hview hv
    rcases hstored with hstored | hstored
    · rw [hstored]
      exact hold
    · rw [hstored]
      exact h.current_of_stored (some i) hold
  open_begun j hj := by
    rw [hbegun]
    exact h.open_begun j ((isOpen_ended hsnapshot j).1 hj).2

theorem Sound.abort {s : Store κ ν} (h : s.Sound) (i : ℕ) : (s.abort i).Sound :=
  h.ended rfl rfl rfl (.inl rfl)

theorem Sound.commit {s : Store κ ν} (h : s.Sound) (i : ℕ) : (s.commit i).Sound :=
  h.ended rfl rfl rfl (.inr rfl)

/-! ## Later stores -/

/-- In a later store, what was current to a party that has not ended in between still is. -/
structure Follows (s s' : Store κ ν) : Prop where
  begun_le : s.begun ≤ s'.begun
  open_before : ∀ i < s.begun, s'.isOpen i = true → s.isOpen i = true
  current : ∀ party, (∀ i, party = some i → i < s.begun ∧ s'.isOpen i = true) →
    ∀ k v, s.current party k = some v → s'.current party k = some v

theorem follows_begin (s : Store κ ν) : s.Follows s.begin where
  begun_le := Nat.le_succ _
  open_before i hi hopen := ((isOpen_begin i).1 hopen).resolve_left (Nat.ne_of_lt hi)
  current _ _ _ _ hcurrent := hcurrent

theorem isOpen_insert [DecidableEq κ] {s s' : Store κ ν} {party : Option ℕ} {k : κ} {v : ν}
    (h : s.insert party k v = some s') (i : ℕ) : s'.isOpen i = s.isOpen i := by
  obtain rfl | ⟨_, _, ⟨_, _, rfl⟩ | rfl⟩ := insert_cases h <;> rfl

theorem follows_insert [DecidableEq κ] {s s' : Store κ ν} {party : Option ℕ} {k : κ} {v : ν}
    (h : s.insert party k v = some s') : s.Follows s' where
  begun_le := by
    obtain rfl | ⟨_, _, ⟨_, _, rfl⟩ | rfl⟩ := insert_cases h <;> exact Nat.le_refl _
  open_before i _ hi := (isOpen_insert h i).symm.trans hi
  current _ _ _ _ := current_insert h

/-- A transaction that ends is not open afterwards. -/
theorem ne_of_isOpen_ended {s s' : Store κ ν} {i : ℕ}
    (hsnapshot : s'.snapshot = Function.update s.snapshot i none) {party : Option ℕ}
    (hparty : ∀ j, party = some j → j < s.begun ∧ s'.isOpen j = true) : party ≠ some i := by
  intro heq
  exact ((isOpen_ended hsnapshot i).1 (hparty i heq).2).1 rfl

theorem follows_abort (s : Store κ ν) (i : ℕ) : s.Follows (s.abort i) where
  begun_le := Nat.le_refl _
  open_before j _ hj := ((isOpen_ended rfl j).1 hj).2
  current _ hparty k _ hcurrent :=
    (current_abort s (ne_of_isOpen_ended rfl hparty) k).trans hcurrent

theorem Sound.follows_commit {s : Store κ ν} (h : s.Sound) (i : ℕ) : s.Follows (s.commit i) where
  begun_le := Nat.le_refl _
  open_before j _ hj := ((isOpen_ended rfl j).1 hj).2
  current _ hparty _ _ hcurrent := h.current_commit (ne_of_isOpen_ended rfl hparty) hcurrent

end Store

end Inserting
