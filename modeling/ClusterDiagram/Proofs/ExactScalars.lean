import ClusterDiagram.Proofs.Computations
import ClusterDiagram.Routing.Grid
import ClusterDiagram.Scalar.Binary
import Mathlib

/-!
# Exact scalars

Rational numbers are scalars without rounding and without a range to leave. Lengths and directions,
which need not be rational, are left open. Over them the grid around two points can always be
measured.
-/

namespace ClusterDiagram

/-- The rational number that a double denotes, zero where it denotes none. -/
def DoubleValue.toRat : DoubleValue → ℚ
  | .finite negative significand exponent =>
      (if negative then -1 else 1) * significand * 2 ^ exponent
  | .infinite _ | .notANumber => 0

/-- Lengths and directions of vectors with rational components. -/
class Lengths where
  /-- The length of the vector with the given components. -/
  hypot : ℚ → ℚ → ℚ
  /-- The unit vector in the direction of the given components. -/
  heading : ℚ → ℚ → ℚ × ℚ

/-- Lengths that are right along the axes, and the direction of the first axis. -/
@[reducible] def Lengths.alongAxes : Lengths where
  hypot x y := |x| + |y|
  heading _ _ := (1, 0)

instance Lengths.toScalar [Lengths] : Scalar ℚ where
  natCast := Nat.cast
  intCast := Int.cast
  decideLT := inferInstance
  decideLE := inferInstance
  floor a := .ok ⌊a⌋
  ceil a := .ok ⌈a⌉
  floorQuotient a b := if b = 0 then .error .divisionByZero else .ok ⌊a / b⌋
  infinity := 0
  isInfinite _ := false
  hypot := Lengths.hypot
  heading := Lengths.heading
  ofFloat x := (DoubleValue.ofFloat x).toRat
  ofInt? n := some n
  toText := toString

theorem Scalar.le_max [Lengths] (a b : ℚ) : a ≤ max a b := by
  rw [max]
  split
  · rename_i less
    exact le_of_lt less
  · exact le_refl a

namespace Routing

variable [Lengths]

theorem divide_of_ne_zero {a b : ℚ} (nonzero : b ≠ 0) : divide a b = .ok (a / b) := by
  have not_zero : Scalar.isZero b = false := beq_false_of_ne nonzero
  rw [divide, not_zero]
  rfl

namespace Raster

variable {cell : ℚ} (nonzero : cell ≠ 0)

include nonzero

theorem exists_index_ok (start a : ℚ) : ∃ count, index start cell a = .ok count := by
  rw [index, divide_of_ne_zero nonzero]
  exact ⟨_, rfl⟩

theorem exists_axisStart_ok (margin a b : ℚ) : ∃ start, axisStart cell margin a b = .ok start := by
  rw [axisStart, divide_of_ne_zero nonzero]
  exact ⟨_, rfl⟩

theorem exists_axisCount_ok (margin start a b : ℚ) :
    ∃ count, axisCount cell margin start a b = .ok count := by
  rw [axisCount, divide_of_ne_zero nonzero]
  exact ⟨_, rfl⟩

end Raster

/-- There is a grid around any two points, with cells of the preferred size at least. -/
theorem exists_around_ok {options : GridOptions ℚ} (positive : 0 < options.cell)
    (some_cells : options.maxCells ≠ 0) (p₁ p₂ : Point ℚ) :
    ∃ raster, Raster.around options p₁ p₂ = .ok raster ∧ options.cell ≤ raster.cell := by
  have cells_ne : (options.maxCells : ℚ) ≠ 0 := Int.cast_ne_zero.mpr some_cells
  simp only [Raster.around, divide_of_ne_zero cells_ne, bind, Except.bind]
  generalize cell_eq : Scalar.max (Scalar.max options.cell _) _ = cell
  have least : options.cell ≤ cell := cell_eq ▸ (Scalar.le_max _ _).trans (Scalar.le_max _ _)
  have nonzero : cell ≠ 0 := (positive.trans_le least).ne'
  obtain ⟨left, left_eq⟩ := Raster.exists_axisStart_ok nonzero options.margin p₁.x p₂.x
  obtain ⟨top, top_eq⟩ := Raster.exists_axisStart_ok nonzero options.margin p₁.y p₂.y
  obtain ⟨columns, columns_eq⟩ := Raster.exists_axisCount_ok nonzero options.margin left p₁.x p₂.x
  obtain ⟨rows, rows_eq⟩ := Raster.exists_axisCount_ok nonzero options.margin top p₁.y p₂.y
  refine ⟨⟨left, top, cell, ⟨columns, rows⟩⟩, ?_, least⟩
  simp only [left_eq, top_eq, columns_eq, rows_eq]
  rfl

theorem exists_blockedRange_ok {raster : Raster ℚ} (nonzero : raster.cell ≠ 0) (box : Box ℚ) :
    ∃ range, blockedRange raster box = .ok range := by
  obtain ⟨left, left_eq⟩ := Raster.exists_index_ok nonzero raster.left box.left
  obtain ⟨right, right_eq⟩ := Raster.exists_index_ok nonzero raster.left box.right
  obtain ⟨top, top_eq⟩ := Raster.exists_index_ok nonzero raster.top box.top
  obtain ⟨bottom, bottom_eq⟩ := Raster.exists_index_ok nonzero raster.top box.bottom
  rw [blockedRange, left_eq, right_eq, top_eq, bottom_eq]
  exact ⟨_, rfl⟩

theorem exists_cellOf_ok {raster : Raster ℚ} (nonzero : raster.cell ≠ 0) (p : Point ℚ) :
    ∃ cell, raster.cellOf p = .ok cell := by
  obtain ⟨column, column_eq⟩ := Raster.exists_index_ok nonzero raster.left p.x
  obtain ⟨row, row_eq⟩ := Raster.exists_index_ok nonzero raster.top p.y
  rw [Raster.cellOf, column_eq, row_eq]
  exact ⟨_, rfl⟩

/-- The search of the grid never fails, whether it finds a way or not. -/
theorem exists_gridRoute_ok {options : GridOptions ℚ} (positive : 0 < options.cell)
    (some_cells : options.maxCells ≠ 0) (p₁ p₂ : Point ℚ) (obstacles : List (Obstacle ℚ)) :
    ∃ way, gridRoute options p₁ p₂ obstacles = .ok way := by
  obtain ⟨raster, raster_eq, least⟩ := exists_around_ok positive some_cells p₁ p₂
  have nonzero : raster.cell ≠ 0 := (positive.trans_le least).ne'
  obtain ⟨start, start_eq⟩ := exists_cellOf_ok nonzero p₁
  obtain ⟨goal, goal_eq⟩ := exists_cellOf_ok nonzero p₂
  obtain ⟨ranges, ranges_eq⟩ :=
    exists_mapM_ok (fun obstacle : Obstacle ℚ => exists_blockedRange_ok nonzero obstacle.toBox)
      obstacles
  simp only [gridRoute, raster_eq, start_eq, goal_eq, ranges_eq, bind, Except.bind]
  exact ⟨_, rfl⟩

end Routing
end ClusterDiagram
