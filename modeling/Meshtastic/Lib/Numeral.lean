import Mathlib.Data.List.TakeWhile
import Mathlib.Data.Nat.Digits.Lemmas

/-! Numbers as digits, the most significant first, and as the symbols that stand for the digits. -/

namespace Numeral

def value (base : Nat) (digits : List Nat) : Nat := digits.foldl (fun number digit => base * number + digit) 0

theorem value_eq_ofDigits (base : Nat) (digits : List Nat) : value base digits = Nat.ofDigits base digits.reverse := by
  rw [value, Nat.ofDigits_eq_foldr, List.foldr_reverse]
  congr
  funext number digit
  exact Nat.add_comm _ _

theorem value_concat (base : Nat) (digits : List Nat) (last : Nat) :
    value base (digits ++ [last]) = base * value base digits + last := by
  simp only [value, List.foldl_append, List.foldl_cons, List.foldl_nil]

def padded (base : Nat) : Nat → Nat → List Nat
  | 0, _ => []
  | width + 1, number => padded base width (number / base) ++ [number % base]

theorem padded_length (base width number : Nat) : (padded base width number).length = width := by
  induction width generalizing number with
  | zero => rfl
  | succ width ih => rw [padded, List.length_append, ih, List.length_singleton]

theorem padded_lt {base : Nat} (positive : 0 < base) (width number : Nat) :
    ∀ digit ∈ padded base width number, digit < base := by
  induction width generalizing number with
  | zero => exact fun digit member => absurd member List.not_mem_nil
  | succ width ih =>
    intro digit member
    rcases List.mem_append.mp member with higher | last
    · exact ih (number / base) digit higher
    · rw [List.mem_singleton.mp last]
      exact Nat.mod_lt number positive

theorem value_padded (base width number : Nat) : value base (padded base width number) = number % base ^ width := by
  induction width generalizing number with
  | zero => simp [padded, value, Nat.mod_one]
  | succ width ih =>
    rw [padded, value_concat, ih, Nat.pow_succ', Nat.mod_mul, Nat.add_comm]

theorem value_padded_of_lt {base width number : Nat} (fits : number < base ^ width) :
    value base (padded base width number) = number := by
  rw [value_padded, Nat.mod_eq_of_lt fits]

def plain (base number : Nat) : List Nat := if number = 0 then [0] else (Nat.digits base number).reverse

theorem plain_ne_nil (base number : Nat) : plain base number ≠ [] := by
  unfold plain
  split_ifs with zero
  · exact List.cons_ne_nil 0 []
  · rw [Ne, List.reverse_eq_nil_iff]
    exact Nat.digits_ne_nil_iff_ne_zero.mpr zero

theorem plain_lt {base : Nat} (several : 1 < base) (number : Nat) : ∀ digit ∈ plain base number, digit < base := by
  intro digit member
  unfold plain at member
  split_ifs at member with zero
  · rw [List.mem_singleton.mp member]
    omega
  · exact Nat.digits_lt_base several (List.mem_reverse.mp member)

theorem value_plain (base number : Nat) : value base (plain base number) = number := by
  unfold plain
  split_ifs with zero
  · rw [zero]
    rfl
  · rw [value_eq_ofDigits, List.reverse_reverse, Nat.ofDigits_digits]

theorem plain_head {base number : Nat} (positive : number ≠ 0) : (plain base number).head? ≠ some 0 := by
  rw [plain, if_neg positive, List.head?_reverse,
    List.getLast?_eq_some_getLast (Nat.digits_ne_nil_iff_ne_zero.mpr positive)]
  intro zero
  exact Nat.getLast_digit_ne_zero base positive (Option.some.inj zero)

/-! ## Symbols -/

section
variable {Symbol : Type} {digitOf : Symbol → Nat} {symbolOf : Nat → Symbol} {base : Nat}

theorem takeWhile_symbols (reads : ∀ digit < base, digitOf (symbolOf digit) = digit) {digits : List Nat}
    (small : ∀ digit ∈ digits, digit < base) :
    (digits.map symbolOf).takeWhile (fun symbol => digitOf symbol < base) = digits.map symbolOf := by
  rw [List.takeWhile_eq_self_iff]
  intro symbol member
  obtain ⟨digit, here, same⟩ := List.mem_map.mp member
  rw [← same, reads digit (small digit here)]
  exact decide_eq_true (small digit here)

theorem map_symbols (reads : ∀ digit < base, digitOf (symbolOf digit) = digit) {digits : List Nat}
    (small : ∀ digit ∈ digits, digit < base) : (digits.map symbolOf).map digitOf = digits := by
  rw [List.map_map]
  calc digits.map (digitOf ∘ symbolOf) = digits.map id :=
        List.map_congr_left fun digit here => reads digit (small digit here)
    _ = digits := List.map_id digits

end

end Numeral
