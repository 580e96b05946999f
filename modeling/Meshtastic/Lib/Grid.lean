import Mathlib.Data.Int.Basic

/-! A grid of cells of one size on the integers. Each number is represented by the centre of its cell: numbers have
the same centre exactly when they lie in the same cell, and none is far from its centre. -/

namespace Grid

/-- The cell of a number. Cells are numbered upwards, below zero too. -/
def cell (size x : Int) : Int := x / size

def centre (size x : Int) : Int := size * cell size x + size / 2

variable {size : Int}

theorem cell_bounds (positive : 0 < size) (x : Int) : size * cell size x ≤ x ∧ x < size * cell size x + size := by
  have split : size * cell size x + x % size = x := Int.mul_ediv_add_emod x size
  have nonneg := Int.emod_nonneg x (Int.ne_of_gt positive)
  have below := Int.emod_lt_of_pos x positive
  omega

theorem cell_unique (positive : 0 < size) {x number : Int} (low : size * number ≤ x) (high : x < size * number + size) :
    cell size x = number := by
  have split : x = (x - size * number) + size * number := by omega
  have inside : (x - size * number) / size = 0 := Int.ediv_eq_zero_of_lt (by omega) (by omega)
  rw [cell, split, Int.add_mul_ediv_left _ _ (Int.ne_of_gt positive), inside, Int.zero_add]

theorem cell_centre (positive : 0 < size) (x : Int) : cell size (centre size x) = cell size x := by
  apply cell_unique positive
  · unfold centre
    omega
  · unfold centre
    omega

theorem centre_eq_iff (positive : 0 < size) {x y : Int} :
    centre size x = centre size y ↔ cell size x = cell size y := by
  constructor
  · intro same
    rw [← cell_centre positive x, ← cell_centre positive y, same]
  · intro same
    rw [centre, centre, same]

theorem centre_near (positive : 0 < size) (even : size % 2 = 0) (x : Int) :
    x - size / 2 ≤ centre size x ∧ centre size x ≤ x + size / 2 := by
  have bounds := cell_bounds positive x
  unfold centre
  omega

theorem centre_range (positive : 0 < size) {low high x : Int} (inside : size * low ≤ x ∧ x < size * high) :
    size * low ≤ centre size x ∧ centre size x < size * high := by
  have bounds := cell_bounds positive x
  have above : low ≤ cell size x := (Int.le_ediv_iff_mul_le positive).mpr (by rw [Int.mul_comm]; exact inside.1)
  have below : cell size x < high := (Int.ediv_lt_iff_lt_mul positive).mpr (by rw [Int.mul_comm]; exact inside.2)
  have first := Int.mul_le_mul_of_nonneg_left above (Int.le_of_lt positive)
  have last : size * (cell size x + 1) ≤ size * high := Int.mul_le_mul_of_nonneg_left below (Int.le_of_lt positive)
  rw [Int.mul_add, Int.mul_one] at last
  unfold centre
  omega

end Grid
