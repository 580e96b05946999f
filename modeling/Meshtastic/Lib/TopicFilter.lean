import Mathlib.Data.List.Basic

/-! Topics that are made of levels, and filters for them. A level of a filter is a level of the topic, or stands for
any one, and the last one may stand for all that follow. -/

namespace TopicFilter

variable {Symbol : Type} [DecidableEq Symbol]

/-- The symbols with a meaning: the one between two levels, and the ones that stand for one level and for the rest. -/
structure Marks (Symbol : Type) where
  separator : Symbol
  one : Symbol
  rest : Symbol

def matchLevels (marks : Marks Symbol) : List (List Symbol) → List (List Symbol) → Bool
  | [], levels => levels.isEmpty
  | level :: later, levels =>
    if level = [marks.rest] then later.isEmpty
    else
      match levels with
      | [] => false
      | first :: others => (level = [marks.one] || level = first) && matchLevels marks later others

def Matches (marks : Marks Symbol) (pattern topic : List Symbol) : Bool :=
  matchLevels marks (pattern.splitOn marks.separator) (topic.splitOn marks.separator)

def Literal (marks : Marks Symbol) (levels : List (List Symbol)) : Prop :=
  ∀ level ∈ levels, level ≠ [marks.one] ∧ level ≠ [marks.rest]

instance (marks : Marks Symbol) (levels : List (List Symbol)) : Decidable (Literal marks levels) :=
  inferInstanceAs (Decidable (∀ level ∈ levels, _))

variable {marks : Marks Symbol} {front later levels : List (List Symbol)}

theorem matchLevels_literal (literal : Literal marks front) :
    matchLevels marks (front ++ later) levels = true ↔
      ∃ others, levels = front ++ others ∧ matchLevels marks later others = true := by
  induction front generalizing levels with
  | nil => exact ⟨fun whole => ⟨levels, rfl, whole⟩, fun ⟨_, same, whole⟩ => by rw [same]; exact whole⟩
  | cons level front ih =>
    obtain ⟨notOne, notRest⟩ := literal level List.mem_cons_self
    have behind := @ih levels.tail (fun other member => literal other (List.mem_cons_of_mem level member))
    cases levels with
    | nil => simp [matchLevels, notRest]
    | cons first others =>
      rw [List.tail_cons] at behind
      simp only [List.cons_append, matchLevels, notRest, notOne, if_false, decide_false, Bool.false_or, Bool.and_eq_true,
        decide_eq_true_eq, behind, List.cons.injEq]
      constructor
      · intro both
        obtain ⟨same, tail, whole, matched⟩ := both
        exact ⟨tail, ⟨same.symm, whole⟩, matched⟩
      · intro found
        obtain ⟨tail, ⟨same, whole⟩, matched⟩ := found
        exact ⟨same.symm, tail, whole, matched⟩

theorem matchLevels_one (apart : marks.one ≠ marks.rest) :
    matchLevels marks [[marks.one]] levels = true ↔ ∃ level, levels = [level] := by
  have different : [marks.one] ≠ [marks.rest] := fun same => apart (List.singleton_inj.mp same)
  cases levels with
  | nil => simp [matchLevels, different]
  | cons first others => simp [matchLevels, different, List.isEmpty_iff]

theorem splitOn_injective (separator : Symbol) :
    Function.Injective (List.splitOn separator : List Symbol → List (List Symbol)) := by
  intro text other same
  calc
    text = [separator].intercalate (text.splitOn separator) := (List.intercalate_splitOn separator).symm
    _ = [separator].intercalate (other.splitOn separator) := by rw [same]
    _ = other := List.intercalate_splitOn separator

end TopicFilter
