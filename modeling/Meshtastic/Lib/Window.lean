import Mathlib.Algebra.BigOperators.Fin
import Mathlib.Algebra.BigOperators.Group.Finset.Basic
import Mathlib.Data.Nat.ModEq
import Mathlib.Logic.Function.Basic

/-! Sums over a sliding window of periods. A ring has one slot for each of the last `size` periods; when a
period begins, its slot is cleared of the period that has just left the window. -/

namespace Window

variable {Amount : Type} [AddCommMonoid Amount] (size : Nat)

def Recent (now period : Nat) : Prop := period ≤ now ∧ now < period + size

instance (now period : Nat) : Decidable (Recent size now period) := inferInstanceAs (Decidable (_ ∧ _))

theorem recent_self {size : Nat} [NeZero size] (now : Nat) : Recent size now now :=
  ⟨Nat.le_refl now, Nat.lt_add_of_pos_right (Nat.pos_of_neZero size)⟩

def total (now : Nat) (logged : List (Nat × Amount)) : Amount :=
  ((logged.filter fun entry => Recent size now entry.1).map Prod.snd).sum

variable {size} [NeZero size]

def slot (period : Nat) : Fin size := Fin.ofNat size period

theorem slot_eq_iff {first second : Nat} : (slot first : Fin size) = slot second ↔ first % size = second % size :=
  Fin.ext_iff

def part (now : Nat) (i : Fin size) (logged : List (Nat × Amount)) : Amount :=
  ((logged.filter fun entry => Recent size now entry.1 ∧ slot entry.1 = i).map Prod.snd).sum

theorem part_append (now : Nat) (i : Fin size) (logged later : List (Nat × Amount)) :
    part now i (logged ++ later) = part now i logged + part now i later := by
  unfold part
  rw [List.filter_append, List.map_append, List.sum_append]

theorem part_singleton (now : Nat) (i : Fin size) {period : Nat} (recent : Recent size now period) (amount : Amount) :
    part now i [(period, amount)] = if slot period = i then amount else 0 := by
  unfold part
  split_ifs with here
  · rw [List.filter_cons_of_pos (by simp [recent, here])]
    simp
  · rw [List.filter_cons_of_neg (by simp [here])]
    rfl

/-- The slots together have what was logged in the recent periods. -/
theorem sum_part (now : Nat) (logged : List (Nat × Amount)) :
    ∑ i : Fin size, part now i logged = total size now logged := by
  induction logged with
  | nil => exact Finset.sum_const_zero
  | cons entry rest ih =>
    by_cases recent : Recent size now entry.1
    · calc
        _ = ∑ i : Fin size, ((if slot entry.1 = i then entry.2 else 0) + part now i rest) := by
          apply Finset.sum_congr rfl
          intro i _
          rw [← part_singleton now i recent, ← part_append]
          rfl
        _ = entry.2 + total size now rest := by
          rw [Finset.sum_add_distrib, Finset.sum_ite_eq, if_pos (Finset.mem_univ _), ih]
        _ = _ := by
          unfold total
          rw [List.filter_cons_of_pos (by simp [recent]), List.map_cons, List.sum_cons]
    · calc
        _ = ∑ i : Fin size, part now i rest := by
          apply Finset.sum_congr rfl
          intro i _
          unfold part
          rw [List.filter_cons_of_neg (by simp [recent])]
        _ = total size now rest := ih
        _ = _ := by
          unfold total
          rw [List.filter_cons_of_neg (by simp [recent])]

/-- Each slot counts what was logged in its recent period, and nothing is logged ahead of time. -/
structure Counts (now : Nat) (slots : Fin size → Amount) (logged : List (Nat × Amount)) : Prop where
  past : ∀ entry ∈ logged, entry.1 ≤ now
  slots : ∀ i, slots i = part now i logged

variable {now next : Nat} {slots : Fin size → Amount} {logged : List (Nat × Amount)}

theorem counts_nil (now : Nat) : Counts now (fun _ : Fin size => (0 : Amount)) [] where
  past := fun _ none => absurd none List.not_mem_nil
  slots := fun _ => rfl

theorem Counts.total (counts : Counts now slots logged) : ∑ i, slots i = total size now logged := by
  rw [← sum_part]
  exact Finset.sum_congr rfl fun i _ => counts.slots i

theorem Counts.log (counts : Counts now slots logged) {period : Nat} (recent : Recent size now period)
    (amount : Amount) :
    Counts now (Function.update slots (slot period) (slots (slot period) + amount)) (logged ++ [(period, amount)]) where
  past := by
    intro entry member
    rw [List.mem_append, List.mem_singleton] at member
    cases member with
    | inl old => exact counts.past entry old
    | inr new =>
      rw [new]
      exact recent.1
  slots := by
    intro i
    rw [part_append, part_singleton now i recent]
    by_cases here : i = slot period
    · rw [here, Function.update_self, if_pos rfl, counts.slots]
    · rw [Function.update_of_ne here, if_neg (Ne.symm here), add_zero, counts.slots]

theorem recent_succ_iff {period : Nat} (past : period ≤ now) (other : (slot period : Fin size) ≠ slot (now + 1)) :
    Recent size (now + 1) period ↔ Recent size now period := by
  have left : now + 1 ≠ period + size := by
    intro same
    apply other
    rw [slot_eq_iff, same, Nat.add_mod_right]
  unfold Recent
  omega

theorem slot_ne_of_recent_succ {period : Nat} (past : period ≤ now) (recent : Recent size (now + 1) period) :
    (slot period : Fin size) ≠ slot (now + 1) := by
  intro same
  obtain ⟨-, inside⟩ := recent
  have divides : size ∣ now + 1 - period := (Nat.modEq_iff_dvd' (by omega)).mp (slot_eq_iff.mp same)
  have far := Nat.le_of_dvd (by omega) divides
  omega

theorem Counts.turn (counts : Counts now slots logged) :
    Counts (now + 1) (Function.update slots (slot (now + 1)) 0) logged where
  past := fun entry member => Nat.le_succ_of_le (counts.past entry member)
  slots := by
    intro i
    by_cases here : i = slot (now + 1)
    · have none : logged.filter (fun entry => Recent size (now + 1) entry.1 ∧ slot entry.1 = i) = [] := by
        rw [List.filter_eq_nil_iff]
        intro entry member
        rw [decide_eq_true_eq]
        intro both
        exact slot_ne_of_recent_succ (counts.past entry member) both.1 (both.2.trans here)
      unfold part
      rw [none, here, Function.update_self]
      rfl
    · have same : ∀ entry ∈ logged, decide (Recent size (now + 1) entry.1 ∧ slot entry.1 = i) =
          decide (Recent size now entry.1 ∧ slot entry.1 = i) := by
        intro entry member
        rw [decide_eq_decide]
        apply and_congr_left
        intro own
        exact recent_succ_iff (counts.past entry member) (own ▸ here)
      rw [Function.update_of_ne here, counts.slots]
      unfold part
      rw [List.filter_congr same]

theorem Counts.advance (counts : Counts now slots logged) (wide : 1 < size) (near : next = now ∨ next = now + 1) :
    Counts next (if (slot now : Fin size) = slot next then slots else Function.update slots (slot next) 0) logged := by
  cases near with
  | inl same =>
    rw [same, if_pos rfl]
    exact counts
  | inr begins =>
    have recent : Recent size (now + 1) now := ⟨Nat.le_succ now, by omega⟩
    have other : (slot now : Fin size) ≠ slot (now + 1) := slot_ne_of_recent_succ (Nat.le_refl now) recent
    rw [begins, if_neg other]
    exact counts.turn

end Window
