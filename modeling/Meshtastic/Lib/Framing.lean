import Mathlib.Data.List.Basic

/-! Reading values off a stream that arrives in pieces. A reader looks at the front of what has arrived:
it waits for more, or it removes some symbols and perhaps finds a value. When more symbols behind do
not change what it does, the values found do not depend on the pieces. -/

namespace Framing

variable {Symbol Value : Type}

inductive Reading (Symbol Value : Type) where
  | wait
  | step (found : Option Value) (rest : List Symbol)

/-- Every step removes a symbol, and looks only at the front. -/
structure Reader (read : List Symbol → Reading Symbol Value) : Prop where
  shorter : ∀ {buffer found rest}, read buffer = .step found rest → rest.length < buffer.length
  stable : ∀ {buffer found rest}, read buffer = .step found rest →
    ∀ more, read (buffer ++ more) = .step found (rest ++ more)

/-- The loop around a reader, with a bound on its rounds; `none` when the bound is hit. -/
def drain (read : List Symbol → Reading Symbol Value) : Nat → List Symbol → Option (List Value × List Symbol)
  | 0, _ => none
  | rounds + 1, buffer =>
    match read buffer with
    | .wait => some ([], buffer)
    | .step found rest => (drain read rounds rest).map fun later => (found.toList ++ later.1, later.2)

/-- The loop ends: from a buffer it finds the values and leaves the rest. -/
inductive Drains (read : List Symbol → Reading Symbol Value) : List Symbol → List Value → List Symbol → Prop
  | wait {buffer} (idle : read buffer = .wait) : Drains read buffer [] buffer
  | step {buffer found rest values left} (one : read buffer = .step found rest) (later : Drains read rest values left) :
      Drains read buffer (found.toList ++ values) left

variable {read : List Symbol → Reading Symbol Value}

theorem Drains.left_waits {buffer left : List Symbol} {values : List Value} (drains : Drains read buffer values left) :
    read left = .wait := by
  induction drains with
  | wait idle => exact idle
  | step _ _ ih => exact ih

/-- As many rounds as there are symbols, and one to see that nothing is left, are enough. -/
theorem Drains.drain_eq (reader : Reader read) {buffer left : List Symbol} {values : List Value}
    (drains : Drains read buffer values left) {rounds : Nat} (enough : buffer.length < rounds) :
    drain read rounds buffer = some (values, left) := by
  induction drains generalizing rounds with
  | wait idle =>
    cases rounds with
    | zero => omega
    | succ rounds => simp only [drain, idle]
  | step one _ ih =>
    cases rounds with
    | zero => omega
    | succ rounds =>
      have shorter := reader.shorter one
      simp only [drain, one]
      rw [ih (by omega)]
      rfl

theorem drains_of_drain {rounds : Nat} {buffer left : List Symbol} {values : List Value}
    (ended : drain read rounds buffer = some (values, left)) : Drains read buffer values left := by
  induction rounds generalizing buffer values with
  | zero => cases ended
  | succ rounds ih =>
    cases reading : read buffer with
    | wait =>
      simp only [drain, reading] at ended
      cases ended
      exact .wait reading
    | step found rest =>
      simp only [drain, reading] at ended
      obtain ⟨later, ran, same⟩ := Option.map_eq_some_iff.mp ended
      cases same
      exact .step reading (ih ran)

/-- What is left is no longer than the buffer, and shorter when the reader does not wait at once. -/
theorem Drains.shorter (reader : Reader read) {buffer left : List Symbol} {values : List Value}
    (drains : Drains read buffer values left) :
    left.length ≤ buffer.length ∧ (read buffer ≠ .wait → left.length < buffer.length) := by
  induction drains with
  | wait idle => exact ⟨Nat.le_refl _, fun busy => absurd idle busy⟩
  | step one _ ih =>
    have removed := reader.shorter one
    exact ⟨by omega, fun _ => by omega⟩

theorem exists_drains (reader : Reader read) (buffer : List Symbol) : ∃ values left, Drains read buffer values left := by
  induction size : buffer.length using Nat.strongRecOn generalizing buffer with
  | ind bound ih =>
    cases reading : read buffer with
    | wait => exact ⟨[], buffer, .wait reading⟩
    | step found rest =>
      have shorter := reader.shorter reading
      obtain ⟨values, left, later⟩ := ih rest.length (by omega) rest rfl
      exact ⟨found.toList ++ values, left, .step reading later⟩

theorem Drains.unique {buffer left otherLeft : List Symbol} {values others : List Value}
    (drains : Drains read buffer values left) (again : Drains read buffer others otherLeft) :
    values = others ∧ left = otherLeft := by
  induction drains generalizing others otherLeft with
  | wait idle =>
    cases again with
    | wait _ => exact ⟨rfl, rfl⟩
    | step one _ =>
      rw [idle] at one
      cases one
  | step one _ ih =>
    cases again with
    | wait idle =>
      rw [idle] at one
      cases one
    | step other later =>
      rw [one] at other
      cases other
      obtain ⟨same, sameLeft⟩ := ih later
      exact ⟨by rw [same], sameLeft⟩

/-- Symbols that arrive after a loop ended are read as if they had been there from the start. -/
theorem Drains.append (reader : Reader read) {buffer left more last : List Symbol} {values later : List Value}
    (drains : Drains read buffer values left) (after : Drains read (left ++ more) later last) :
    Drains read (buffer ++ more) (values ++ later) last := by
  induction drains with
  | wait _ => exact after
  | step one _ ih =>
    rw [List.append_assoc]
    exact .step (reader.stable one more) (ih after)

end Framing
