import Mathlib.Logic.Function.Basic

/-! Histories of events, newest first. A rule says of an event whether it may follow the
events before it; a history is lawful when every event in it was allowed where it stands. -/

namespace History

variable {Event : Type}

def Lawful (may : Event → List Event → Prop) : List Event → Prop
  | [] => True
  | event :: older => may event older ∧ Lawful may older

variable {may : Event → List Event → Prop}

theorem lawful_older {newer older : List Event} (lawful : Lawful may (newer ++ older)) : Lawful may older := by
  induction newer with
  | nil => exact lawful
  | cons event rest ih => exact ih lawful.2

theorem lawful_at {newer older : List Event} {event : Event} (lawful : Lawful may (newer ++ event :: older)) :
    may event older :=
  (lawful_older lawful).1

theorem lawful_mem {history : List Event} {event : Event} (lawful : Lawful may history)
    (member : event ∈ history) : ∃ newer older, history = newer ++ event :: older ∧ may event older := by
  obtain ⟨newer, older, same⟩ := List.append_of_mem member
  subst same
  exact ⟨newer, older, rfl, lawful_at lawful⟩

end History
