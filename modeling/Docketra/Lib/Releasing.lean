import Docketra.Lib.Runs
import Mathlib.Order.BooleanAlgebra.Set

/-!
# Resources that go with their last holder

Resources are held, and a resource is released once. `Releases s t` says that from `s` to `t` nothing
is taken up again, and that what has been released in between is what is no longer held. Such moves
compose (`Releases.trans`), so it is enough that each step of a run is one (`states_release`), and
they never release what is still held (`Releases.sound`).
-/

namespace Releasing

/-- The resources that are held, and those that have been released. -/
structure Resources (R : Type) where
  held : Set R
  released : Set R

variable {R : Type} {s t u : Resources R}

/-- Nothing that is held has been released. -/
def Resources.Sound (s : Resources R) : Prop := ∀ r ∈ s.held, r ∉ s.released

/-- What is released from `s` to `t` is what is no longer held. -/
structure Releases (s t : Resources R) : Prop where
  held_subset : t.held ⊆ s.held
  released_eq : t.released = s.released ∪ s.held \ t.held

theorem Releases.refl (s : Resources R) : Releases s s where
  held_subset := Set.Subset.rfl
  released_eq := by rw [sdiff_self, Set.bot_eq_empty, Set.union_empty]

theorem Releases.trans (hst : Releases s t) (htu : Releases t u) : Releases s u where
  held_subset := htu.held_subset.trans hst.held_subset
  released_eq := by
    have hparts : s.held \ t.held ∪ t.held \ u.held = s.held \ u.held :=
      Set.sdiff_union_sdiff_cancel hst.held_subset htu.held_subset
    rw [htu.released_eq, hst.released_eq, Set.union_assoc, hparts]

/-- What is still held has not been released. -/
theorem Releases.sound (h : Releases s t) (hs : s.Sound) : t.Sound := by
  intro r hheld hreleased
  rw [h.released_eq] at hreleased
  rcases hreleased with hbefore | hnow
  · exact hs r (h.held_subset hheld) hbefore
  · exact hnow.2 hheld

/-- When each admitted step releases what is no longer held after it, so does an admitted run. -/
theorem states_release {σ ι : Type} {step : ι → σ → σ} {ok : ι → σ → Prop}
    {resources : σ → Resources R}
    (hstep : ∀ i s, ok i s → Releases (resources s) (resources (step i s))) (is : List ι) (s : σ)
    (his : Runs.Admits step ok is s) :
    ∀ t ∈ Runs.states step is s, Releases (resources s) (resources t) :=
  Runs.states_invariant (fun i _ hs hi => hs.trans (hstep i _ hi)) is s (Releases.refl _) his

end Releasing
