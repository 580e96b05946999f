import Mathlib.Data.List.Basic
import Mathlib.Data.List.DropRight
import Mathlib.Data.Nat.ModEq
import Mathlib.Logic.Function.Basic
import Mathlib.Tactic.SplitIfs

/-! A circular buffer as a double-ended queue: `count` cells, read round from `start`, are the
queued values, oldest first. Both ends move, and each overflow policy gives up one end. -/

namespace Deque

variable {Value : Type} {size : Nat}

def place (size start offset : Nat) : Nat := (start + offset) % size

def before (size start : Nat) : Nat := (start + size - 1) % size

def contents (cells : Nat → Value) (size start count : Nat) : List Value :=
  (List.range count).map (fun offset => cells (place size start offset))

/-! ## The abstract operations -/

/-- Append, giving up the oldest value when there is no room. -/
def pushNewest (size : Nat) (queued : List Value) (value : Value) : List Value :=
  (if queued.length = size then queued.tail else queued) ++ [value]

/-- Prepend, giving up the newest value when there is no room. -/
def pushOldest (size : Nat) (queued : List Value) (value : Value) : List Value :=
  value :: (if queued.length = size then queued.dropLast else queued)

theorem pushNewest_sublist (queued : List Value) (value : Value) :
    (pushNewest size queued value).Sublist (queued ++ [value]) := by
  apply List.Sublist.append_right
  split_ifs with full
  · exact List.tail_sublist queued
  · exact List.Sublist.refl queued

theorem pushNewest_eq_rtake {queued : List Value} (fits : queued.length ≤ size) (room : 0 < size) (value : Value) :
    pushNewest size queued value = (queued ++ [value]).rtake size := by
  rw [pushNewest, List.rtake, List.length_append, List.length_singleton]
  split_ifs with full
  · have one : queued.length + 1 - size = 1 := by omega
    have first : 1 ≤ queued.length := by omega
    rw [one, List.drop_append_of_le_length first, List.drop_one]
  · have none : queued.length + 1 - size = 0 := by omega
    rw [none, List.drop_zero]

/-- What was given up does not come back. -/
theorem rtake_append_rtake (older newer : List Value) :
    (older.rtake size ++ newer).rtake size = (older ++ newer).rtake size := by
  rw [List.rtake_eq_reverse_take_reverse, List.rtake_eq_reverse_take_reverse, List.rtake_eq_reverse_take_reverse]
  rw [List.reverse_append, List.reverse_append, List.reverse_reverse, List.take_append, List.take_append, List.take_take]
  rw [Nat.min_eq_left (Nat.sub_le _ _)]

/-! ## Places -/

theorem place_lt (room : 0 < size) (start offset : Nat) : place size start offset < size :=
  Nat.mod_lt _ room

@[simp] theorem place_zero {start : Nat} (inside : start < size) : place size start 0 = start :=
  Nat.mod_eq_of_lt inside

theorem place_place (start first second : Nat) :
    place size (place size start first) second = place size start (first + second) := by
  simp only [place, Nat.mod_add_mod, Nat.add_assoc]

theorem place_injective {start first second : Nat} (firstInside : first < size) (secondInside : second < size)
    (same : place size start first = place size start second) : first = second := by
  have congruent : Nat.ModEq size first second := Nat.ModEq.add_left_cancel' start same
  exact Nat.ModEq.eq_of_lt_of_lt congruent firstInside secondInside

theorem before_eq_place {start : Nat} (room : 0 < size) : before size start = place size start (size - 1) := by
  simp only [before, place]
  congr 1
  omega

theorem place_before {start offset : Nat} (room : 0 < size) :
    place size (before size start) (offset + 1) = place size start offset := by
  rw [before_eq_place room, place_place]
  simp only [place]
  rw [show start + (size - 1 + (offset + 1)) = start + offset + size by omega, Nat.add_mod_right]

theorem before_place {start offset : Nat} (room : 0 < size) :
    before size (place size start (offset + 1)) = place size start offset := by
  rw [before_eq_place room, place_place]
  simp only [place]
  rw [show start + (offset + 1 + (size - 1)) = start + offset + size by omega, Nat.add_mod_right]

/-! ## Contents -/

@[simp] theorem length_contents (cells : Nat → Value) (start count : Nat) :
    (contents cells size start count).length = count := by
  simp [contents]

@[simp] theorem contents_zero (cells : Nat → Value) (start : Nat) : contents cells size start 0 = [] := rfl

theorem contents_succ_newest (cells : Nat → Value) (start count : Nat) :
    contents cells size start (count + 1) = contents cells size start count ++ [cells (place size start count)] := by
  simp [contents, List.range_succ]

theorem contents_succ_oldest (cells : Nat → Value) {start : Nat} (inside : start < size) (count : Nat) :
    contents cells size start (count + 1) = cells start :: contents cells size (place size start 1) count := by
  simp only [contents, List.range_succ_eq_map, List.map_cons, List.map_map, place_zero inside]
  congr 1
  apply List.map_congr_left
  intro offset _
  simp only [Function.comp, place_place]
  rw [Nat.add_comm]

theorem contents_update {cells : Nat → Value} {start count offset : Nat} (outside : count ≤ offset)
    (inside : offset < size) (value : Value) :
    contents (Function.update cells (place size start offset) value) size start count =
      contents cells size start count := by
  apply List.map_congr_left
  intro other member
  have earlier := List.mem_range.mp member
  apply Function.update_of_ne
  intro same
  have equal := place_injective (by omega) inside same
  omega

theorem contents_push_newest {cells : Nat → Value} {start count : Nat} (room : count < size) (value : Value) :
    contents (Function.update cells (place size start count) value) size start (count + 1) =
      contents cells size start count ++ [value] := by
  rw [contents_succ_newest, contents_update (Nat.le_refl _) room, Function.update_self]

theorem contents_push_oldest {cells : Nat → Value} {start count : Nat} (inside : start < size)
    (room : count < size) (value : Value) :
    contents (Function.update cells (before size start) value) size (before size start) (count + 1) =
      value :: contents cells size start count := by
  have positive : 0 < size := by omega
  have wrapped : before size start = place size start (size - 1) := before_eq_place positive
  have bounded : before size start < size := Nat.mod_lt _ positive
  rw [contents_succ_oldest _ bounded, Function.update_self, place_before positive, place_zero inside, wrapped,
    contents_update (by omega) (by omega)]

theorem tail_contents (cells : Nat → Value) {start : Nat} (inside : start < size) (count : Nat) :
    (contents cells size start (count + 1)).tail = contents cells size (place size start 1) count := by
  rw [contents_succ_oldest cells inside, List.tail_cons]

theorem dropLast_contents (cells : Nat → Value) (start count : Nat) :
    (contents cells size start (count + 1)).dropLast = contents cells size start count := by
  rw [contents_succ_newest, List.dropLast_concat]

end Deque
