import Mathlib.Data.List.GetD
import Mathlib.Logic.Function.Basic
import Mathlib.Tactic.SplitIfs

/-! A circular buffer as a sliding window: with a writing position that moves round, the cells hold
the last values written, and an empty value where nothing has been written yet. -/

namespace Ring

variable {Value : Type} {size : Nat}

def next (position : Fin size) : Fin size :=
  ⟨(position.val + 1) % size, Nat.mod_lt _ (Nat.lt_of_le_of_lt (Nat.zero_le _) position.isLt)⟩

def cell (position : Fin size) (age : Nat) : Fin size :=
  ⟨(position.val + (size - 1 - age)) % size, Nat.mod_lt _ (Nat.lt_of_le_of_lt (Nat.zero_le _) position.isLt)⟩

/-- The cells hold the newest values of a history, newest first. -/
def Holds (empty : Value) (cells : Fin size → Value) (position : Fin size) (history : List Value) : Prop :=
  ∀ age, age < size → cells (cell position age) = history.getD age empty

theorem mod_wrap {value bound : Nat} (once : value < 2 * bound) :
    value % bound = if value < bound then value else value - bound := by
  split_ifs with small
  · exact Nat.mod_eq_of_lt small
  · rw [Nat.mod_eq_sub_mod (by omega)]
    exact Nat.mod_eq_of_lt (by omega)

theorem cell_next_zero (position : Fin size) : cell (next position) 0 = position := by
  have bound := position.isLt
  apply Fin.ext
  simp only [cell, next]
  have moved : (position.val + 1) % size = if position.val + 1 < size then position.val + 1
    else position.val + 1 - size := mod_wrap (by omega)
  rw [moved]
  split_ifs
  · rw [mod_wrap (by omega)]
    split_ifs <;> omega
  · rw [mod_wrap (by omega)]
    split_ifs <;> omega

theorem cell_next_succ (position : Fin size) {age : Nat} (young : age + 1 < size) :
    cell (next position) (age + 1) = cell position age := by
  have bound := position.isLt
  apply Fin.ext
  simp only [cell, next]
  have moved : (position.val + 1) % size = if position.val + 1 < size then position.val + 1
    else position.val + 1 - size := mod_wrap (by omega)
  rw [moved]
  split_ifs
  · rw [mod_wrap (by omega), mod_wrap (by omega)]
    split_ifs <;> omega
  · rw [mod_wrap (by omega), mod_wrap (by omega)]
    split_ifs <;> omega

theorem cell_ne (position : Fin size) {age : Nat} (young : age + 1 < size) : cell position age ≠ position := by
  have bound := position.isLt
  intro same
  have value := congrArg Fin.val same
  simp only [cell] at value
  rw [mod_wrap (by omega)] at value
  split_ifs at value <;> omega

theorem exists_cell (position i : Fin size) : ∃ age, age < size ∧ cell position age = i := by
  have bound := position.isLt
  have inside := i.isLt
  by_cases behind : i.val < position.val
  · refine ⟨position.val - 1 - i.val, by omega, Fin.ext ?_⟩
    simp only [cell]
    rw [mod_wrap (by omega)]
    split_ifs <;> omega
  · refine ⟨position.val + size - 1 - i.val, by omega, Fin.ext ?_⟩
    simp only [cell]
    rw [mod_wrap (by omega)]
    split_ifs <;> omega

theorem holds_nil (empty : Value) (position : Fin size) : Holds empty (fun _ => empty) position [] := by
  intro age young
  simp

theorem Holds.push {empty : Value} {cells : Fin size → Value} {position : Fin size} {history : List Value}
    (holds : Holds empty cells position history) (value : Value) :
    Holds empty (Function.update cells position value) (next position) (value :: history) := by
  intro age young
  cases age with
  | zero =>
    rw [cell_next_zero, Function.update_self]
    rfl
  | succ age =>
    rw [cell_next_succ position young, Function.update_of_ne (cell_ne position young), holds age (by omega)]
    rfl

theorem Holds.mem_iff {empty : Value} {cells : Fin size → Value} {position : Fin size} {history : List Value}
    (holds : Holds empty cells position history) (value : Value) :
    (∃ i, cells i = value) ↔ value ∈ history.take size ∨ (value = empty ∧ history.length < size) := by
  constructor
  · intro stored
    obtain ⟨i, same⟩ := stored
    obtain ⟨age, young, here⟩ := exists_cell position i
    rw [← here, holds age young] at same
    by_cases written : age < history.length
    · left
      rw [List.getD_eq_getElem _ _ written] at same
      rw [← same]
      exact List.mem_take_iff_getElem.mpr ⟨age, by omega, rfl⟩
    · right
      rw [List.getD_eq_default _ _ (by omega)] at same
      exact ⟨same.symm, by omega⟩
  · intro present
    rcases present with recent | ⟨isEmpty, room⟩
    · obtain ⟨age, young, same⟩ := List.mem_take_iff_getElem.mp recent
      refine ⟨cell position age, ?_⟩
      rw [holds age (by omega), List.getD_eq_getElem _ _ (by omega), same]
    · refine ⟨cell position history.length, ?_⟩
      rw [holds _ room, List.getD_eq_default _ _ (Nat.le_refl _), isEmpty]

/-- Values that were not in the buffer when they were written. -/
def Fresh (empty : Value) (size : Nat) : List Value → Prop
  | [] => True
  | value :: older =>
    (value ∉ older.take size ∧ ¬(value = empty ∧ older.length < size)) ∧ Fresh empty size older

theorem Fresh.older {empty : Value} {newer older : List Value} (fresh : Fresh empty size (newer ++ older)) :
    Fresh empty size older := by
  induction newer with
  | nil => exact fresh
  | cons value rest ih => exact ih fresh.2

/-- As many values as the buffer has cells stand between two writes of the same value. -/
theorem Fresh.between {empty value : Value} {middle older : List Value}
    (fresh : Fresh empty size (value :: (middle ++ value :: older))) :
    size ≤ middle.length ∧ value ∉ middle.take size := by
  have unseen := fresh.1.1
  have long : size ≤ middle.length := by
    by_contra short
    apply unseen
    apply List.mem_take_iff_getElem.mpr
    exact ⟨middle.length, by simp; omega, by simp⟩
  rw [List.take_append_of_le_length long] at unseen
  exact ⟨long, unseen⟩

theorem Fresh.nodup_take {empty : Value} {history : List Value} (fresh : Fresh empty size history) {count : Nat}
    (few : count ≤ size) : (history.take count).Nodup := by
  induction history generalizing count with
  | nil => simp
  | cons value older ih =>
    cases count with
    | zero => simp
    | succ count =>
      rw [List.take_succ_cons, List.nodup_cons]
      refine ⟨fun seen => fresh.1.1 ?_, ih fresh.2 (by omega)⟩
      exact List.take_subset_take_left older (by omega) seen

/-- How often a value may be written, where the buffer does not hold it from the first `absent` writes. -/
theorem Fresh.count_mul_add_le [BEq Value] [LawfulBEq Value] {empty value : Value} {history : List Value}
    (fresh : Fresh empty size history) {absent : Nat} (few : absent ≤ size) (unseen : value ∉ history.take absent) :
    history.count value * (size + 1) + absent ≤ history.length + size := by
  induction history generalizing absent with
  | nil =>
    rw [List.count_nil, Nat.zero_mul, Nat.zero_add, List.length_nil, Nat.zero_add]
    exact few
  | cons first older ih =>
    cases absent with
    | zero =>
      by_cases same : first = value
      · subst same
        have behind := ih fresh.2 (Nat.le_refl size) fresh.1.1
        rw [List.count_cons_self, List.length_cons, Nat.succ_mul]
        omega
      · have behind := ih fresh.2 (Nat.zero_le size) (by rw [List.take_zero]; exact List.not_mem_nil)
        rw [List.count_cons_of_ne same, List.length_cons]
        omega
    | succ absent =>
      rw [List.take_succ_cons, List.mem_cons, not_or] at unseen
      have behind := ih fresh.2 (Nat.le_of_succ_le few) unseen.2
      rw [List.count_cons_of_ne (Ne.symm unseen.1), List.length_cons]
      omega

theorem Fresh.count_mul_le [BEq Value] [LawfulBEq Value] {empty value : Value} {history : List Value}
    (fresh : Fresh empty size history) : history.count value * (size + 1) ≤ history.length + size :=
  fresh.count_mul_add_le (Nat.zero_le size) (by rw [List.take_zero]; exact List.not_mem_nil)

end Ring
