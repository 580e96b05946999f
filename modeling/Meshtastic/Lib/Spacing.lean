import Mathlib.Order.Basic

/-! Keeping a distance in time with a single stamp. Something may happen again when enough time has passed since
the stamp, which is the time it happened last; then enough time has passed since every time it happened. -/

namespace Spacing

def Elapsed (interval now : Int) (times : List Int) : Prop := ∀ time ∈ times, interval ≤ now - time

instance (interval now : Int) (times : List Int) : Decidable (Elapsed interval now times) :=
  inferInstanceAs (Decidable (∀ time ∈ times, interval ≤ now - time))

/-- The stamp is the newest of the times. Before there are any, it is `never`. -/
structure Stamp (never stamp : Int) (times : List Int) : Prop where
  newest : ∀ time ∈ times, time ≤ stamp
  taken : stamp ∈ times ∨ times = [] ∧ stamp = never

variable {never stamp interval now : Int} {times : List Int}

theorem stamp_never (never : Int) : Stamp never never [] where
  newest := fun _ none => absurd none List.not_mem_nil
  taken := Or.inr ⟨rfl, rfl⟩

theorem stamp_now (never : Int) (past : ∀ time ∈ times, time ≤ now) : Stamp never now (now :: times) where
  newest := List.forall_mem_cons.mpr ⟨Int.le_refl now, past⟩
  taken := Or.inl List.mem_cons_self

/-- One comparison with the stamp stands for all of them. -/
theorem Stamp.elapsed_iff (stamped : Stamp never stamp times) (ready : interval ≤ now - never) :
    interval ≤ now - stamp ↔ Elapsed interval now times := by
  constructor
  · intro enough time member
    have before := stamped.newest time member
    omega
  · intro all
    rcases stamped.taken with member | ⟨-, first⟩
    · exact all stamp member
    · rw [first]
      exact ready

/-- The same with a time that nothing can happen at for `never`: then there is nothing to wait for. -/
theorem Stamp.elapsed_or_never_iff (stamped : Stamp never stamp times) (absent : never ∉ times) :
    stamp = never ∨ interval ≤ now - stamp ↔ Elapsed interval now times := by
  rcases stamped.taken with member | ⟨none, first⟩
  · have taken : stamp ≠ never := fun same => absent (same ▸ member)
    rw [or_iff_right taken]
    constructor
    · intro enough time present
      have before := stamped.newest time present
      omega
    · intro all
      exact all stamp member
  · rw [none]
    exact ⟨fun _ _ present => absurd present List.not_mem_nil, fun _ => Or.inl first⟩

end Spacing
