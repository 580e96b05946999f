import Mathlib.Logic.Function.Basic

/-! A binary semaphore and the threads that take it. Which phases of a thread lie between its take and
its give is a parameter. -/

namespace Exclusion

variable {Name Phase : Type} {inside : Phase → Prop} {free : Bool} {phases : Name → Phase}

/-- The semaphore is free exactly when no thread is inside, and no two threads are. -/
structure Exclusive (inside : Phase → Prop) (free : Bool) (phases : Name → Phase) : Prop where
  free_iff : free = true ↔ ∀ who, ¬inside (phases who)
  one : ∀ who other, inside (phases who) → inside (phases other) → who = other

theorem Exclusive.taken (exclusive : Exclusive inside free phases) {who : Name} (here : inside (phases who)) :
    free = false := by
  cases open_ : free with
  | false => rfl
  | true => exact absurd here (exclusive.free_iff.mp open_ who)

theorem Exclusive.others (exclusive : Exclusive inside free phases) {who other : Name} (here : inside (phases who))
    (apart : other ≠ who) : ¬inside (phases other) :=
  fun there => apart (exclusive.one other who there here)

variable [DecidableEq Name]

theorem Exclusive.take (exclusive : Exclusive inside true phases) (who : Name) {phase : Phase}
    (enters : inside phase) : Exclusive inside false (Function.update phases who phase) := by
  have empty := exclusive.free_iff.mp rfl
  have only : ∀ other, inside (Function.update phases who phase other) → other = who := by
    intro other there
    by_contra apart
    rw [Function.update_of_ne apart] at there
    exact empty other there
  constructor
  · constructor
    · intro open_
      cases open_
    · intro none
      have here := none who
      rw [Function.update_self] at here
      exact absurd enters here
  · intro first second atFirst atSecond
    rw [only first atFirst, only second atSecond]

theorem Exclusive.give (exclusive : Exclusive inside free phases) {who : Name} (here : inside (phases who))
    {phase : Phase} (leaves : ¬inside phase) : Exclusive inside true (Function.update phases who phase) := by
  have empty : ∀ other, ¬inside (Function.update phases who phase other) := by
    intro other
    by_cases same : other = who
    · rw [same, Function.update_self]
      exact leaves
    · rw [Function.update_of_ne same]
      exact exclusive.others here same
  constructor
  · exact ⟨fun _ => empty, fun _ => rfl⟩
  · intro first _ atFirst
    exact absurd atFirst (empty first)

theorem Exclusive.stay (exclusive : Exclusive inside free phases) {who : Name} {phase : Phase}
    (same : inside phase ↔ inside (phases who)) : Exclusive inside free (Function.update phases who phase) := by
  have all : ∀ other, inside (Function.update phases who phase other) ↔ inside (phases other) := by
    intro other
    by_cases here : other = who
    · rw [here, Function.update_self]
      exact same
    · rw [Function.update_of_ne here]
  constructor
  · rw [exclusive.free_iff]
    apply forall_congr'
    intro other
    rw [all other]
  · intro first second atFirst atSecond
    exact exclusive.one first second ((all first).mp atFirst) ((all second).mp atSecond)

end Exclusion
