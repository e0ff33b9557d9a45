import Docketra.Lib.Expiring
import Mathlib.Order.Basic
import Mathlib.Algebra.Order.Group.Nat

/-!
# Fixed windows

A counter is an entry that expires. The first hit of it opens a window, which the other hits count
in until it is over. Where the hits that a window counts up to a limit are admitted, no span as long
as a window has more than twice the limit of them (`Bounded.spans`): it meets two windows at most.

The bound is an invariant of the counter and the times of the admitted hits. It holds of fewer times
as well, where a hit that the counter admits is refused for another reason (`Bounded.hit_unlogged`).
-/

namespace FixedWindows

open Expiring

/-- A counter after a hit. -/
def hit (now ttl : ℕ) (counter : Option (Entry ℕ)) : Entry ℕ :=
  match live now counter with
  | some e => ⟨e.value + 1, e.expires⟩
  | none => ⟨1, now + ttl⟩

theorem hit_of_some {now : ℕ} {counter : Option (Entry ℕ)} {e : Entry ℕ}
    (h : live now counter = some e) (ttl : ℕ) : hit now ttl counter = ⟨e.value + 1, e.expires⟩ := by
  simp [hit, h]

theorem hit_of_none {now : ℕ} {counter : Option (Entry ℕ)} (h : live now counter = none)
    (ttl : ℕ) : hit now ttl counter = ⟨1, now + ttl⟩ := by
  simp [hit, h]

/-- How many of the times are in a span. -/
def within (t u : ℕ) (times : List ℕ) : ℕ := times.countP fun x => t ≤ x ∧ x < u

/-- How many of the times are in a span without an end. -/
def since (t : ℕ) (times : List ℕ) : ℕ := times.countP fun x => t ≤ x

theorem within_cons (t u x : ℕ) (times : List ℕ) :
    within t u (x :: times) = within t u times + if t ≤ x ∧ x < u then 1 else 0 := by
  simp [within, List.countP_cons]

theorem since_cons (t x : ℕ) (times : List ℕ) :
    since t (x :: times) = since t times + if t ≤ x then 1 else 0 := by
  simp [since, List.countP_cons]

theorem within_le_since {t t' : ℕ} (h : t' ≤ t) (u : ℕ) (times : List ℕ) :
    within t u times ≤ since t' times := by
  refine List.countP_mono_left fun x _ hx => ?_
  simp only [decide_eq_true_eq] at hx ⊢
  omega

/-- A span is parted at any time. -/
theorem within_le_add (t u v : ℕ) (times : List ℕ) :
    within t u times ≤ within t v times + since v times := by
  induction times with
  | nil => exact Nat.zero_le _
  | cons x times ih =>
    rw [within_cons, within_cons, since_cons]
    split_ifs <;> omega

/-- A time after all of them has none since. -/
theorem since_eq_zero {t : ℕ} {times : List ℕ} (h : ∀ x ∈ times, x < t) : since t times = 0 := by
  refine List.countP_eq_zero.mpr fun x hx => ?_
  have hlt := h x hx
  simp only [decide_eq_true_eq]
  omega

/-- A window that was opened at `start`, and the times of admitted hits up to now. -/
structure Window (limit ttl now start : ℕ) (counter : Entry ℕ) (times : List ℕ) : Prop where
  expires : counter.expires = start + ttl
  opened : start ≤ now
  past : ∀ x ∈ times, x < counter.expires
  counted : since start times ≤ counter.value
  limited : since start times ≤ limit
  /-- What is left of a span in the window before. -/
  previous : ∀ t, start ≤ t + ttl → within t start times ≤ limit
  spans : ∀ t, within t (t + ttl) times ≤ 2 * limit

/-- The times of admitted hits are those of a counter with a limit. -/
inductive Bounded (limit ttl now : ℕ) : Option (Entry ℕ) → List ℕ → Prop where
  | unused : Bounded limit ttl now none []
  | window (start : ℕ) (counter : Entry ℕ) (times : List ℕ)
      (h : Window limit ttl now start counter times) : Bounded limit ttl now (some counter) times

variable {limit ttl now : ℕ} {counter : Option (Entry ℕ)} {times : List ℕ}

/-- No span of the length of a window has more than twice the limit. -/
theorem Bounded.spans (h : Bounded limit ttl now counter times) (t : ℕ) :
    within t (t + ttl) times ≤ 2 * limit := by
  cases h with
  | unused => exact Nat.zero_le _
  | window start counter times h => exact h.spans t

theorem Bounded.later (h : Bounded limit ttl now counter times) {later : ℕ} (hle : now ≤ later) :
    Bounded limit ttl later counter times := by
  cases h with
  | unused => exact .unused
  | window start counter times h =>
    exact .window start counter times { h with opened := Nat.le_trans h.opened hle }

/-- A hit that a running window admits. -/
theorem Window.counted_one {start : ℕ} {e : Entry ℕ} (h : Window limit ttl now start e times)
    (hlive : now < e.expires) (hlimit : e.value + 1 ≤ limit) :
    Window limit ttl now start ⟨e.value + 1, e.expires⟩ (now :: times) := by
  have hopened := h.opened
  have hcounted := h.counted
  have hsince : since start (now :: times) = since start times + 1 := by
    rw [since_cons, if_pos h.opened]
  refine ⟨h.expires, h.opened, ?_, ?_, ?_, fun t ht => ?_, fun t => ?_⟩
  · intro x hx
    rcases List.mem_cons.mp hx with rfl | hx
    · exact hlive
    · exact h.past x hx
  · rw [hsince]
    exact Nat.succ_le_succ h.counted
  · omega
  · have hprevious := h.previous t ht
    rw [within_cons, if_neg (by omega)]
    exact hprevious
  · by_cases ht : t ≤ now ∧ now < t + ttl
    · by_cases hstart : start ≤ t
      · -- The whole span is in the window.
        have hle := within_le_since hstart (t + ttl) (now :: times)
        omega
      · have hparts := within_le_add t (t + ttl) start (now :: times)
        have hprevious := h.previous t (by omega)
        have hwithin : within t start (now :: times) = within t start times := by
          rw [within_cons, if_neg (by omega)]
          rfl
        omega
    · rw [within_cons, if_neg ht]
      exact h.spans t

/-- The first hit of a window. -/
theorem Window.start {e : Entry ℕ} (times : List ℕ) (hpast : ∀ x ∈ times, x < e.expires)
    (hover : e.expires ≤ now) (hlimit : 1 ≤ limit) (httl : 0 < ttl)
    (hprevious : ∀ t, now ≤ t + ttl → within t now times ≤ limit)
    (hspans : ∀ t, within t (t + ttl) times ≤ 2 * limit) :
    Window limit ttl now now ⟨1, now + ttl⟩ (now :: times) := by
  have hnone : since now times = 0 :=
    since_eq_zero fun x hx => Nat.lt_of_lt_of_le (hpast x hx) hover
  have hsince : since now (now :: times) = 1 := by
    rw [since_cons, if_pos le_rfl, hnone]
  refine ⟨rfl, le_rfl, ?_, hsince.le, hsince.le.trans hlimit, fun t ht => ?_, fun t => ?_⟩
  · intro x hx
    show x < now + ttl
    rcases List.mem_cons.mp hx with rfl | hx
    · omega
    · have hlt := hpast x hx
      omega
  · rw [within_cons, if_neg (by omega)]
    exact hprevious t ht
  · by_cases ht : t ≤ now ∧ now < t + ttl
    · have hparts := within_le_add t (t + ttl) now (now :: times)
      have hwithin : within t now (now :: times) = within t now times := by
        rw [within_cons, if_neg (by omega)]
        rfl
      have hle := hprevious t (by omega)
      omega
    · rw [within_cons, if_neg ht]
      exact hspans t

/-- What a window that is over leaves to spans that reach into the next one. -/
theorem Window.leaves {start : ℕ} {e : Entry ℕ} (h : Window limit ttl now start e times)
    (hover : e.expires ≤ now) (t : ℕ) (ht : now ≤ t + ttl) : within t now times ≤ limit := by
  have hexpires := h.expires
  exact (within_le_since (by omega) now times).trans h.limited

/-- A hit within the limit is admitted. -/
theorem Bounded.hit_logged (h : Bounded limit ttl now counter times) (httl : 0 < ttl)
    (hlimit : (hit now ttl counter).value ≤ limit) :
    Bounded limit ttl now (some (hit now ttl counter)) (now :: times) := by
  cases h with
  | unused =>
    refine .window now _ _ (Window.start (e := ⟨0, 0⟩) [] (fun _ hx => nomatch hx) (Nat.zero_le _)
      hlimit httl (fun t _ => Nat.zero_le _) fun t => Nat.zero_le _)
  | window start e times h =>
    by_cases hlive : now < e.expires
    · rw [hit_of_some (live_eq_some.mpr ⟨rfl, hlive⟩)] at hlimit ⊢
      exact .window start _ _ (h.counted_one hlive hlimit)
    · have hover : e.expires ≤ now := Nat.le_of_not_lt hlive
      have hnone : live now (some e) = none := by simp [live, Option.filter, hlive]
      rw [hit_of_none hnone] at hlimit ⊢
      exact .window now _ _ (Window.start times h.past hover hlimit httl (h.leaves hover) h.spans)

/-- A hit may be refused, above the limit or for another reason. -/
theorem Bounded.hit_unlogged (h : Bounded limit ttl now counter times) :
    Bounded limit ttl now (some (hit now ttl counter)) times := by
  cases h with
  | unused =>
    exact .window now _ _ ⟨rfl, le_rfl, fun _ hx => (nomatch hx), Nat.zero_le _, Nat.zero_le _,
      fun _ _ => Nat.zero_le _, fun _ => Nat.zero_le _⟩
  | window start e times h =>
    by_cases hlive : now < e.expires
    · rw [hit_of_some (live_eq_some.mpr ⟨rfl, hlive⟩)]
      exact .window start _ _ { h with counted := Nat.le_succ_of_le h.counted }
    · have hover : e.expires ≤ now := Nat.le_of_not_lt hlive
      have hnone : live now (some e) = none := by simp [live, Option.filter, hlive]
      have hsince : since now times = 0 :=
        since_eq_zero fun x hx => Nat.lt_of_lt_of_le (h.past x hx) hover
      rw [hit_of_none hnone]
      refine .window now _ _ ⟨rfl, le_rfl, fun x hx => ?_, by rw [hsince]; exact Nat.zero_le _,
        by rw [hsince]; exact Nat.zero_le _, h.leaves hover, h.spans⟩
      exact Nat.lt_of_lt_of_le (h.past x hx) (Nat.le_trans hover (Nat.le_add_right now ttl))

/-- A hit, which is admitted only within the limit. -/
theorem Bounded.hit (h : Bounded limit ttl now counter times) (httl : 0 < ttl) (isAdmitted : Bool)
    (hlimit : isAdmitted = true → (FixedWindows.hit now ttl counter).value ≤ limit) :
    Bounded limit ttl now (some (FixedWindows.hit now ttl counter))
      (if isAdmitted then now :: times else times) := by
  cases isAdmitted with
  | true => exact h.hit_logged httl (hlimit rfl)
  | false => exact h.hit_unlogged

end FixedWindows
