import Mathlib.Data.List.Nodup
import Mathlib.Data.Nat.ModEq
import Mathlib.Logic.Function.Iterate

/-! Draws from a counter that walks round a cycle: within one round no value is drawn twice. -/

namespace Counter

variable {State Value : Type} (draw : State → Value × State)

def draws : Nat → State → List Value
  | 0, _ => []
  | count + 1, state => (draw state).1 :: draws count (draw state).2

variable {draw}

theorem draws_eq_map (count : Nat) (state : State) :
    draws draw count state =
      (List.range count).map fun turn => (draw ((fun state => (draw state).2)^[turn] state)).1 := by
  induction count generalizing state with
  | zero => rfl
  | succ count ih =>
    rw [draws, ih, List.range_succ_eq_map, List.map_cons, List.map_map]
    rfl

theorem forall_mem_draws {good : Value → Prop} (single : ∀ state, good (draw state).1) (count : Nat)
    (state : State) : ∀ value ∈ draws draw count state, good value := by
  induction count generalizing state with
  | zero => exact fun _ none => absurd none List.not_mem_nil
  | succ count ih => exact List.forall_mem_cons.mpr ⟨single state, ih (draw state).2⟩

variable {position : State → Nat} {period : Nat}

theorem position_iterate (moves : ∀ state, position (draw state).2 ≡ position state + 1 [MOD period])
    (turn : Nat) (state : State) :
    position ((fun state => (draw state).2)^[turn] state) ≡ position state + turn [MOD period] := by
  induction turn with
  | zero => exact Nat.ModEq.refl _
  | succ turn ih =>
    rw [Function.iterate_succ_apply']
    exact (moves _).trans (ih.add_right 1)

theorem draws_nodup (position : State → Nat)
    (moves : ∀ state, position (draw state).2 ≡ position state + 1 [MOD period])
    (tells : ∀ first second, (draw first).1 = (draw second).1 → position first ≡ position second [MOD period])
    {count : Nat} (few : count ≤ period) (state : State) : (draws draw count state).Nodup := by
  rw [draws_eq_map]
  refine List.Nodup.map_on ?_ List.nodup_range
  intro first inFirst second inSecond same
  have behind := tells _ _ same
  have turns : position state + first ≡ position state + second [MOD period] := by
    calc
      _ ≡ position ((fun state => (draw state).2)^[first] state) [MOD period] :=
        (position_iterate moves first state).symm
      _ ≡ position ((fun state => (draw state).2)^[second] state) [MOD period] := behind
      _ ≡ _ [MOD period] := position_iterate moves second state
  have congruent : first ≡ second [MOD period] := Nat.ModEq.add_left_cancel' _ turns
  have firstInside := List.mem_range.mp inFirst
  have secondInside := List.mem_range.mp inSecond
  exact congruent.eq_of_lt_of_lt (by omega) (by omega)

end Counter
