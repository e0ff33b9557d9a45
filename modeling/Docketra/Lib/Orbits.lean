import Mathlib.Algebra.Order.Ring.Int
import Mathlib.Data.List.Basic
import Mathlib.Tactic.Linarith
import Mathlib.Tactic.Ring

/-!
# Orbits of an increasing step

A cursor on the integers moves by a step `f`, and never back. `upTo` are the places that it comes
to, up to a bound, and `reach` is the first of them that is not before a given place. A stretch of
the orbit is cut at any place (`upTo_split`), and two cursors come to the same places up to a bound
exactly when they start at one place, or both start beyond it (`upTo_eq_upTo_iff`).

A cursor that moves by a fixed step comes to the places of one residue (`reach_of_fixed`).
-/

namespace Orbits

variable (f : ℤ → ℤ)

/-- The places of the cursor up to a bound, so many at most. -/
def placesWithin (bound : ℤ) : ℕ → ℤ → List ℤ
  | 0, _ => []
  | n + 1, c => if c ≤ bound then c :: placesWithin bound n (f c) else []

/-- The places of the cursor up to a bound. -/
def upTo (bound c : ℤ) : List ℤ := placesWithin f bound (bound - c + 1).toNat c

/-- The first place of the cursor from `x` on, after so many steps at most. -/
def reachWithin (x : ℤ) : ℕ → ℤ → ℤ
  | 0, c => c
  | n + 1, c => if x ≤ c then c else reachWithin x n (f c)

/-- The first place of the cursor from `x` on. -/
def reach (x c : ℤ) : ℤ := reachWithin f x (x - c).toNat c

variable {f} {bound x y c d : ℤ}

/-! ## The two equations of each -/

theorem placesWithin_of_lt (h : bound < c) (n : ℕ) : placesWithin f bound n c = [] := by
  cases n with
  | zero => rfl
  | succ n => exact if_neg (by omega)

theorem reachWithin_of_le (h : x ≤ c) (n : ℕ) : reachWithin f x n c = c := by
  cases n with
  | zero => rfl
  | succ n => exact if_pos h

theorem upTo_of_lt (h : bound < c) : upTo f bound c = [] := placesWithin_of_lt h _

theorem reach_of_le (h : x ≤ c) : reach f x c = c := reachWithin_of_le h _

section

variable (hf : ∀ c, c < f c)
include hf

/-- More rounds than there can be places add none. -/
theorem placesWithin_of_le : ∀ {n m : ℕ} {c : ℤ}, (bound - c + 1).toNat ≤ n →
    (bound - c + 1).toNat ≤ m → placesWithin f bound n c = placesWithin f bound m c
  | 0, m, c, hn, _ => by
    have hpast : bound < c := by omega
    rw [placesWithin_of_lt hpast, placesWithin_of_lt hpast]
  | n + 1, 0, c, _, hm => by
    have hpast : bound < c := by omega
    rw [placesWithin_of_lt hpast, placesWithin_of_lt hpast]
  | n + 1, m + 1, c, hn, hm => by
    have hnext := hf c
    have ih : placesWithin f bound n (f c) = placesWithin f bound m (f c) :=
      placesWithin_of_le (by omega) (by omega)
    rw [placesWithin, placesWithin, ih]

theorem reachWithin_of_fuel : ∀ {n m : ℕ} {c : ℤ}, (x - c).toNat ≤ n → (x - c).toNat ≤ m →
    reachWithin f x n c = reachWithin f x m c
  | 0, m, c, hn, _ => by
    have hpast : x ≤ c := by omega
    rw [reachWithin_of_le hpast, reachWithin_of_le hpast]
  | n + 1, 0, c, _, hm => by
    have hpast : x ≤ c := by omega
    rw [reachWithin_of_le hpast, reachWithin_of_le hpast]
  | n + 1, m + 1, c, hn, hm => by
    have hnext := hf c
    have ih : reachWithin f x n (f c) = reachWithin f x m (f c) :=
      reachWithin_of_fuel (by omega) (by omega)
    rw [reachWithin, reachWithin, ih]

theorem upTo_of_le (h : c ≤ bound) : upTo f bound c = c :: upTo f bound (f c) := by
  have hnext := hf c
  have hrounds : placesWithin f bound (bound - c + 1).toNat c =
      placesWithin f bound ((bound - c + 1).toNat + 1) c :=
    placesWithin_of_le hf le_rfl (Nat.le_succ _)
  have hrest : placesWithin f bound (bound - c + 1).toNat (f c) = upTo f bound (f c) :=
    placesWithin_of_le hf (by omega) le_rfl
  rw [upTo, hrounds, placesWithin, if_pos h, hrest]

theorem reach_of_lt (h : c < x) : reach f x c = reach f x (f c) := by
  have hnext := hf c
  have hrounds : reachWithin f x (x - c).toNat c = reachWithin f x ((x - c).toNat + 1) c :=
    reachWithin_of_fuel hf le_rfl (Nat.le_succ _)
  have hrest : reachWithin f x (x - c).toNat (f c) = reach f x (f c) :=
    reachWithin_of_fuel hf (by omega) le_rfl
  rw [reach, hrounds, reachWithin, if_neg (by omega), hrest]

/-! ## Induction along an orbit -/

/-- To show something of a cursor, show it where the cursor is past a place, and before that place
from the next one on. -/
theorem along {P : ℤ → Prop} (past : ∀ c, x ≤ c → P c) (next : ∀ c, c < x → P (f c) → P c)
    (c : ℤ) : P c := by
  generalize hn : (x - c).toNat = n
  induction n using Nat.strong_induction_on generalizing c with
  | _ n ih =>
    rcases le_or_gt x c with hpast | hbefore
    · exact past c hpast
    · have hnext := hf c
      exact next c hbefore (ih (x - f c).toNat (by omega) (f c) rfl)

theorem le_reach (x c : ℤ) : x ≤ reach f x c := by
  refine along hf (x := x) (P := fun c => x ≤ reach f x c) (fun c h => ?_) (fun c h ih => ?_) c
  · rw [reach_of_le h]
    exact h
  · rw [reach_of_lt hf h]
    exact ih

/-- The first place from `y` on, of those from `x` on. -/
theorem reach_reach (x y c : ℤ) : reach f y (reach f x c) = reach f (max x y) c := by
  refine along hf (x := x) (P := fun c => reach f y (reach f x c) = reach f (max x y) c)
    (fun c h => ?_) (fun c h ih => ?_) c
  · rw [reach_of_le h]
    rcases le_or_gt y c with hy | hy
    · rw [reach_of_le hy, reach_of_le (by omega)]
    · rw [max_eq_right (by omega)]
  · rw [reach_of_lt hf h, ih, reach_of_lt hf (by omega : c < max x y)]

theorem bounds_of_mem_upTo {z : ℤ} (h : z ∈ upTo f bound c) : c ≤ z ∧ z ≤ bound := by
  revert h
  refine along hf (x := bound + 1) (P := fun c => z ∈ upTo f bound c → c ≤ z ∧ z ≤ bound)
    (fun c hc h => ?_) (fun c hc ih h => ?_) c
  · rw [upTo_of_lt (by omega)] at h
    exact absurd h List.not_mem_nil
  · rw [upTo_of_le hf (by omega)] at h
    have hnext := hf c
    rcases List.mem_cons.mp h with rfl | h
    · exact ⟨le_rfl, by omega⟩
    · have hbounds := ih h
      exact ⟨by omega, hbounds.2⟩

/-! ## Cutting an orbit -/

/-- A stretch is cut at any place before its end. -/
theorem upTo_split (h : x ≤ bound) (c : ℤ) :
    upTo f bound c = upTo f x c ++ upTo f bound (reach f (x + 1) c) := by
  refine along hf (x := x + 1)
    (P := fun c => upTo f bound c = upTo f x c ++ upTo f bound (reach f (x + 1) c))
    (fun c hc => ?_) (fun c hc ih => ?_) c
  · rw [upTo_of_lt (by omega : x < c), reach_of_le hc, List.nil_append]
  · rw [upTo_of_le hf (by omega : c ≤ bound), upTo_of_le hf (by omega : c ≤ x),
      reach_of_lt hf hc, List.cons_append, ← ih]

/-- Of the places up to a bound, those from `x` on are again such places. -/
theorem upTo_filter (x bound c : ℤ) :
    (upTo f bound c).filter (x ≤ ·) = upTo f bound (reach f x c) := by
  refine along hf (x := x)
    (P := fun c => (upTo f bound c).filter (x ≤ ·) = upTo f bound (reach f x c))
    (fun c hc => ?_) (fun c hc ih => ?_) c
  · rw [reach_of_le hc, List.filter_eq_self]
    intro z hz
    have hbounds := bounds_of_mem_upTo hf hz
    exact decide_eq_true (hc.trans hbounds.1)
  · rw [reach_of_lt hf hc, ← ih]
    rcases le_or_gt c bound with hle | hgt
    · rw [upTo_of_le hf hle, List.filter_cons_of_neg (by simpa using hc)]
    · rw [upTo_of_lt hgt, upTo_of_lt (hgt.trans (hf c))]

/-- There is no place up to the bound exactly when the cursor starts beyond it. -/
theorem upTo_eq_nil_iff : upTo f bound c = [] ↔ bound < c := by
  constructor
  · intro h
    by_contra hle
    rw [upTo_of_le hf (by omega)] at h
    exact List.cons_ne_nil _ _ h
  · exact upTo_of_lt

/-- Two cursors come to the same places exactly when they start at one place, or come to none. -/
theorem upTo_eq_upTo_iff : upTo f bound c = upTo f bound d ↔ c = d ∨ bound < c ∧ bound < d := by
  constructor
  · intro h
    rcases lt_or_ge bound c with hc | hc
    · rw [upTo_of_lt hc] at h
      exact .inr ⟨hc, (upTo_eq_nil_iff hf).mp h.symm⟩
    · rcases lt_or_ge bound d with hd | hd
      · rw [upTo_of_lt hd] at h
        exact absurd ((upTo_eq_nil_iff hf).mp h) (by omega)
      · rw [upTo_of_le hf hc, upTo_of_le hf hd] at h
        exact .inl (List.cons.inj h).1
  · rintro (rfl | ⟨hc, hd⟩)
    · rfl
    · rw [upTo_of_lt hc, upTo_of_lt hd]

end

/-! ## A fixed step -/

/-- The first place from `x` on, of a cursor that moves by `k` from where it is. -/
def nextOf (k x c : ℤ) : ℤ := c + k * max 0 ((x - c + k - 1) / k)

theorem nextOf_bounds {k : ℤ} (hk : 0 < k) (x c : ℤ) :
    x ≤ nextOf k x c ∧ c ≤ nextOf k x c ∧ (c < x + k → nextOf k x c < x + k) ∧
      k ∣ nextOf k x c - c := by
  have hdiv := Int.mul_ediv_add_emod (x - c + k - 1) k
  have hlow := Int.emod_nonneg (x - c + k - 1) hk.ne'
  have hhigh := Int.emod_lt_of_pos (x - c + k - 1) hk
  have hdvd : k ∣ nextOf k x c - c := ⟨max 0 ((x - c + k - 1) / k), by rw [nextOf]; ring⟩
  generalize hq : (x - c + k - 1) / k = q at hdiv
  rw [nextOf, hq] at hdvd ⊢
  rcases le_or_gt 0 q with h | h
  · rw [max_eq_right h] at hdvd ⊢
    have hnonneg : 0 ≤ k * q := by positivity
    exact ⟨by omega, by omega, fun _ => by omega, hdvd⟩
  · rw [max_eq_left h.le] at hdvd ⊢
    have hneg : k * q ≤ -k := by nlinarith
    exact ⟨by omega, by omega, fun _ => by omega, hdvd⟩

/-- Where a cursor moves by `k`, it comes to `nextOf k`. -/
theorem reach_of_fixed (hf : ∀ c, c < f c) {k : ℤ} (hk : 0 < k) {c₀ : ℤ}
    (hfixed : ∀ c, c₀ ≤ c → f c = c + k) (x : ℤ) :
    ∀ c, c₀ ≤ c → reach f x c = nextOf k x c := by
  refine along hf (x := x) (P := fun c => c₀ ≤ c → reach f x c = nextOf k x c)
    (fun c h _ => ?_) (fun c h ih hc => ?_)
  · have hneg : (x - c + k - 1) / k ≤ 0 :=
      Int.lt_add_one_iff.mp (Int.ediv_lt_of_lt_mul hk (by omega))
    rw [reach_of_le h, nextOf, max_eq_left hneg, mul_zero, add_zero]
  · rw [reach_of_lt hf h, ih (hc.trans (hf c).le), hfixed c hc, nextOf, nextOf]
    have hstep : (x - c + k - 1) / k = (x - (c + k) + k - 1) / k + 1 := by
      have hsum : x - c + k - 1 = x - (c + k) + k - 1 + k := by ring
      rw [hsum, Int.add_ediv_of_dvd_right (dvd_refl k), Int.ediv_self hk.ne']
    have hnonneg : 0 ≤ (x - (c + k) + k - 1) / k := Int.ediv_nonneg (by omega) hk.le
    rw [hstep, max_eq_right hnonneg, max_eq_right (by omega)]
    ring

/-- Two cursors that move by `k`, and are not far past `x`, come to one place exactly when their
distance is a multiple of `k`. -/
theorem nextOf_eq_iff {k : ℤ} (hk : 0 < k) (hc : c < x + k) (hd : d < x + k) :
    nextOf k x c = nextOf k x d ↔ k ∣ d - c := by
  obtain ⟨hcx, -, hclt, hcdvd⟩ := nextOf_bounds hk x c
  obtain ⟨hdx, -, hdlt, hddvd⟩ := nextOf_bounds hk x d
  constructor
  · intro h
    rw [h] at hcdvd
    have hsub := Int.dvd_sub hcdvd hddvd
    have heq : nextOf k x d - c - (nextOf k x d - d) = d - c := by ring
    rwa [heq] at hsub
  · intro h
    -- Both are in the `k` places from `x` on, and in one residue.
    have hdiff : k ∣ nextOf k x d - nextOf k x c := by
      have hsum := Int.dvd_add (Int.dvd_sub hddvd hcdvd) h
      have heq : nextOf k x d - d - (nextOf k x c - c) + (d - c) =
          nextOf k x d - nextOf k x c := by ring
      rwa [heq] at hsum
    have hzero : nextOf k x d - nextOf k x c = 0 := by
      refine Int.eq_zero_of_abs_lt_dvd hdiff ?_
      have := hclt hc
      have := hdlt hd
      rw [abs_lt]
      constructor <;> omega
    omega

end Orbits
