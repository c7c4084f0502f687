import ClusterDiagram.Proofs.CellBlocks

/-!
# Extents of the grid around two points

An axis begins half a cell before a whole number of cells from the first coordinate, so that this is
the middle of a cell, and it has one cell more than are needed to reach the end of the room around
both coordinates. The number of cells before the first coordinate and that of all cells are both
rounded up, which costs less than a cell each. So the room is covered, and an axis has at most three
cells more than the room takes.
-/

namespace ClusterDiagram
namespace Routing
namespace Raster

variable [Lengths]

/-! ## Axes -/

section Axis

variable {cell : ℚ} (positive : 0 < cell)

include positive

theorem index_eq (start a : ℚ) : Raster.index start cell a = .ok ⌊(a - start) / cell⌋ := by
  rw [Raster.index, divide_of_ne_zero positive.ne']
  rfl

theorem axisStart_eq (margin a b : ℚ) :
    axisStart cell margin a b =
      .ok (a - ((⌈(a - (min a b - margin)) / cell⌉ : ℚ) + ((1 : ℕ) : ℚ) / ((2 : ℕ) : ℚ)) * cell) := by
  rw [axisStart, divide_of_ne_zero positive.ne', Scalar.min_rational]
  rfl

theorem axisCount_eq (margin start a b : ℚ) :
    axisCount cell margin start a b = .ok (⌈(max a b + margin - start) / cell⌉ + 1) := by
  rw [axisCount, divide_of_ne_zero positive.ne', Scalar.max_rational]
  rfl

variable {margin a b start : ℚ} {count : ℤ} (start_eq : axisStart cell margin a b = .ok start)
  (count_eq : axisCount cell margin start a b = .ok count)

include start_eq in
/-- The first coordinate is the middle of a cell of its axis. -/
theorem middle_of_axis {index : ℤ} (index_ok : Raster.index start cell a = .ok index) :
    start + ((index : ℚ) + ((1 : ℕ) : ℚ) / ((2 : ℕ) : ℚ)) * cell = a := by
  rw [axisStart_eq positive, Except.ok.injEq] at start_eq
  rw [index_eq positive, Except.ok.injEq] at index_ok
  obtain ⟨before, before_eq⟩ : ∃ before, ⌈(a - (min a b - margin)) / cell⌉ = before := ⟨_, rfl⟩
  rw [before_eq] at start_eq
  have same : index = before := by
    rw [← index_ok, Int.floor_eq_iff, le_div_iff₀ positive, div_lt_iff₀ positive, ← start_eq]
    push_cast
    constructor <;> linarith
  rw [same, ← start_eq]
  ring

include start_eq in
/-- An axis begins before the room around both coordinates, by less than one cell and a half. -/
theorem start_of_axis :
    start ≤ min a b - margin - cell / 2 ∧ min a b - margin - 3 * cell / 2 < start := by
  rw [axisStart_eq positive, Except.ok.injEq] at start_eq
  have enough := (div_le_iff₀ positive).mp (Int.le_ceil ((a - (min a b - margin)) / cell))
  have spare := Int.ceil_lt_add_one ((a - (min a b - margin)) / cell)
  rw [← sub_lt_iff_lt_add, lt_div_iff₀ positive] at spare
  push_cast at start_eq
  constructor <;> linarith

include count_eq in
/-- The room around both coordinates ends before the last cell of an axis, and behind the one before
that. -/
theorem count_of_axis :
    max a b + margin ≤ start + (count - 1) * cell ∧
      start + (count - 2) * cell < max a b + margin := by
  rw [axisCount_eq positive, Except.ok.injEq] at count_eq
  have enough := (div_le_iff₀ positive).mp (Int.le_ceil ((max a b + margin - start) / cell))
  have spare := Int.ceil_lt_add_one ((max a b + margin - start) / cell)
  rw [← sub_lt_iff_lt_add, lt_div_iff₀ positive] at spare
  rw [← count_eq]
  push_cast
  constructor <;> linarith

include start_eq count_eq

/-- Around every coordinate between the two there is room on the axis. -/
theorem room_of_axis {c : ℚ} (least : min a b ≤ c) (greatest : c ≤ max a b) :
    start ≤ c - margin ∧ c + margin ≤ start + count * cell := by
  obtain ⟨before, -⟩ := start_of_axis positive start_eq
  obtain ⟨behind, -⟩ := count_of_axis positive count_eq
  constructor <;> linarith

/-- Every coordinate between the two lies in a cell of the axis. -/
theorem exists_index_of_axis (roomy : 0 ≤ margin) {c : ℚ} (least : min a b ≤ c)
    (greatest : c ≤ max a b) :
    ∃ index, Raster.index start cell c = .ok index ∧ 0 ≤ index ∧ index < count := by
  obtain ⟨before, -⟩ := start_of_axis positive start_eq
  obtain ⟨behind, -⟩ := count_of_axis positive count_eq
  refine ⟨_, index_eq positive start c, ?_, ?_⟩
  · exact Int.floor_nonneg.mpr (div_nonneg (by linarith) positive.le)
  · rw [Int.floor_lt, div_lt_iff₀ positive]
    linarith

/-- There are at most three cells more than the room takes. -/
theorem count_le_of_axis {cells : ℤ} (span_le : |b - a| + 2 * margin ≤ cells * cell) :
    count ≤ cells + 3 := by
  obtain ⟨-, near⟩ := start_of_axis positive start_eq
  obtain ⟨-, last⟩ := count_of_axis positive count_eq
  have span_eq : max a b - min a b = |b - a| := by rw [max_sub_min_eq_abs, abs_sub_comm]
  have scaled : ((count : ℚ) - 2) * cell < (cells + 3 / 2) * cell := by linarith
  have counted : (count : ℚ) - 2 < cells + 3 / 2 := lt_of_mul_lt_mul_right scaled positive.le
  have counted : (count : ℚ) < ((cells + 4 : ℤ) : ℚ) := by
    push_cast
    linarith
  have := Int.cast_lt.mp counted
  omega

end Axis

/-! ## Both axes -/

/-- Whether a grid covers a point with some room on every side. -/
structure Covers (raster : Raster ℚ) (room : ℚ) (p : Point ℚ) : Prop where
  /-- Room on the left. -/
  left : raster.left ≤ p.x - room
  /-- Room on the right. -/
  right : p.x + room ≤ raster.left + raster.size.columns * raster.cell
  /-- Room above. -/
  top : raster.top ≤ p.y - room
  /-- Room below. -/
  bottom : p.y + room ≤ raster.top + raster.size.rows * raster.cell

/-- Whether a point lies in the rectangle that two points span. -/
structure Between (p₁ p₂ p : Point ℚ) : Prop where
  /-- Not left of both points. -/
  left : min p₁.x p₂.x ≤ p.x
  /-- Not right of both points. -/
  right : p.x ≤ max p₁.x p₂.x
  /-- Not above both points. -/
  top : min p₁.y p₂.y ≤ p.y
  /-- Not below both points. -/
  bottom : p.y ≤ max p₁.y p₂.y

omit [Lengths] in
theorem between_first (p₁ p₂ : Point ℚ) : Between p₁ p₂ p₁ :=
  ⟨min_le_left _ _, le_max_left _ _, min_le_left _ _, le_max_left _ _⟩

omit [Lengths] in
theorem between_second (p₁ p₂ : Point ℚ) : Between p₁ p₂ p₂ :=
  ⟨min_le_right _ _, le_max_right _ _, min_le_right _ _, le_max_right _ _⟩

section Around

variable {options : GridOptions ℚ} {p₁ p₂ : Point ℚ} {raster : Raster ℚ}
  (some_cells : options.maxCells ≠ 0) (raster_eq : around options p₁ p₂ = .ok raster)

include some_cells raster_eq

/-- What a grid is made of: cells of the preferred size, unless the room takes more of them than are
allowed, and an axis in each direction. -/
theorem axes_of_around :
    raster.cell = max (max options.cell ((|p₂.x - p₁.x| + 2 * options.margin) / options.maxCells))
        ((|p₂.y - p₁.y| + 2 * options.margin) / options.maxCells) ∧
      axisStart raster.cell options.margin p₁.x p₂.x = .ok raster.left ∧
      axisStart raster.cell options.margin p₁.y p₂.y = .ok raster.top ∧
      axisCount raster.cell options.margin raster.left p₁.x p₂.x = .ok raster.size.columns ∧
      axisCount raster.cell options.margin raster.top p₁.y p₂.y = .ok raster.size.rows := by
  have cells_ne : (options.maxCells : ℚ) ≠ 0 := Int.cast_ne_zero.mpr some_cells
  obtain ⟨wide, wide_eq, raster_eq⟩ := ok_of_bind raster_eq
  obtain ⟨high, high_eq, raster_eq⟩ := ok_of_bind raster_eq
  obtain ⟨left, left_eq, raster_eq⟩ := ok_of_bind raster_eq
  obtain ⟨top, top_eq, raster_eq⟩ := ok_of_bind raster_eq
  obtain ⟨columns, columns_eq, raster_eq⟩ := ok_of_bind raster_eq
  obtain ⟨rows, rows_eq, raster_eq⟩ := ok_of_bind raster_eq
  cases raster_eq
  rw [divide_of_ne_zero cells_ne, Scalar.abs_rational, Except.ok.injEq] at wide_eq high_eq
  refine ⟨?_, left_eq, top_eq, columns_eq, rows_eq⟩
  rw [Scalar.max_rational, Scalar.max_rational, ← wide_eq, ← high_eq]
  rfl

variable (positive : 0 < raster.cell)

include positive

/-- A grid covers what lies between its two points. -/
theorem Between.covers {p : Point ℚ} (between : Between p₁ p₂ p) :
    raster.Covers options.margin p := by
  obtain ⟨-, left_eq, top_eq, columns_eq, rows_eq⟩ := axes_of_around some_cells raster_eq
  obtain ⟨left, right⟩ := room_of_axis positive left_eq columns_eq between.left between.right
  obtain ⟨top, bottom⟩ := room_of_axis positive top_eq rows_eq between.top between.bottom
  exact ⟨left, right, top, bottom⟩

/-- What lies between the two points of a grid lies in a cell of the grid. -/
theorem Between.exists_cellOf (roomy : 0 ≤ options.margin) {p : Point ℚ}
    (between : Between p₁ p₂ p) :
    ∃ cell, raster.cellOf p = .ok cell ∧ raster.size.holds cell = true := by
  obtain ⟨-, left_eq, top_eq, columns_eq, rows_eq⟩ := axes_of_around some_cells raster_eq
  obtain ⟨column, column_eq, column_nonneg, column_lt⟩ :=
    exists_index_of_axis positive left_eq columns_eq roomy between.left between.right
  obtain ⟨row, row_eq, row_nonneg, row_lt⟩ :=
    exists_index_of_axis positive top_eq rows_eq roomy between.top between.bottom
  refine ⟨(column, row), ?_, ?_⟩
  · rw [cellOf, column_eq, row_eq]
    rfl
  · simp only [GridSize.holds, Bool.and_eq_true, decide_eq_true_eq]
    exact ⟨⟨⟨column_nonneg, column_lt⟩, row_nonneg⟩, row_lt⟩

omit some_cells in
/-- A grid has at most three cells more on an axis than are allowed. -/
theorem size_le_of_around (some_cells : 0 < options.maxCells) :
    raster.size.columns ≤ options.maxCells + 3 ∧ raster.size.rows ≤ options.maxCells + 3 := by
  obtain ⟨cell_eq, left_eq, top_eq, columns_eq, rows_eq⟩ :=
    axes_of_around some_cells.ne' raster_eq
  have some_cells : (0 : ℚ) < options.maxCells := Int.cast_pos.mpr some_cells
  have wide : (|p₂.x - p₁.x| + 2 * options.margin) / options.maxCells ≤ raster.cell :=
    cell_eq ▸ (le_max_right _ _).trans (le_max_left _ _)
  have high : (|p₂.y - p₁.y| + 2 * options.margin) / options.maxCells ≤ raster.cell :=
    cell_eq ▸ le_max_right _ _
  rw [div_le_iff₀' some_cells] at wide high
  exact ⟨count_le_of_axis positive left_eq columns_eq wide,
    count_le_of_axis positive top_eq rows_eq high⟩

end Around

/-- The grid around two points has cells of the preferred size at least, and the first point is the
centre of a cell inside. -/
theorem center_of_around {options : GridOptions ℚ} (positive : 0 < options.cell)
    (some_cells : options.maxCells ≠ 0) (roomy : 0 ≤ options.margin) {p₁ p₂ : Point ℚ}
    {raster : Raster ℚ} {start : GridCell} (raster_eq : around options p₁ p₂ = .ok raster)
    (start_eq : raster.cellOf p₁ = .ok start) :
    options.cell ≤ raster.cell ∧ raster.center start = p₁ ∧ raster.size.holds start = true := by
  obtain ⟨cell_eq, left_eq, top_eq, -, -⟩ := axes_of_around some_cells raster_eq
  have least : options.cell ≤ raster.cell := cell_eq ▸ (le_max_left _ _).trans (le_max_left _ _)
  have cell_pos : 0 < raster.cell := positive.trans_le least
  obtain ⟨own, own_eq, inside⟩ :=
    (between_first p₁ p₂).exists_cellOf some_cells raster_eq cell_pos roomy
  obtain rfl : own = start := Except.ok.inj (own_eq.symm.trans start_eq)
  obtain ⟨column, column_eq, start_eq⟩ := ok_of_bind start_eq
  obtain ⟨row, row_eq, start_eq⟩ := ok_of_bind start_eq
  cases start_eq
  have x_eq := middle_of_axis cell_pos left_eq column_eq
  have y_eq := middle_of_axis cell_pos top_eq row_eq
  exact ⟨least, congrArg₂ Point.mk x_eq y_eq, inside⟩

end Raster

/-! ## The search -/

section Search

variable [Lengths] {options : GridOptions ℚ} {p₁ p₂ : Point ℚ} {raster : Raster ℚ}
  {start goal : GridCell} (raster_eq : Raster.around options p₁ p₂ = .ok raster)
  (start_eq : raster.cellOf p₁ = .ok start) (goal_eq : raster.cellOf p₂ = .ok goal)

include raster_eq start_eq goal_eq

/-- A route comes from the search through the cells that no obstacle overlaps, the first one being
free at any rate. -/
theorem gridRoute_eq {obstacles : List (Obstacle ℚ)} {ranges : List CellRange}
    (ranges_eq : obstacles.mapM (fun obstacle => blockedRange raster obstacle.toBox) =
      .ok ranges) :
    gridRoute options p₁ p₂ obstacles =
      .ok ((shortestWay raster.size (fun cell => cell != start && ranges.any (·.holds cell)) start
        goal).map fun cells => simplify (wayPoints raster p₁ p₂ cells)) := by
  simp only [gridRoute, raster_eq, start_eq, goal_eq, ranges_eq, bind, Except.bind, pure,
    Except.pure]

theorem exists_gridRoute_eq (positive : 0 < raster.cell) (obstacles : List (Obstacle ℚ)) :
    ∃ blocked : GridCell → Bool, blocked start = false ∧
      gridRoute options p₁ p₂ obstacles = .ok ((shortestWay raster.size blocked start goal).map
        fun cells => simplify (wayPoints raster p₁ p₂ cells)) := by
  obtain ⟨ranges, ranges_eq⟩ :=
    exists_mapM_ok (fun obstacle : Obstacle ℚ => exists_blockedRange_ok positive.ne' obstacle.toBox)
      obstacles
  refine ⟨fun cell => cell != start && ranges.any (·.holds cell), ?_,
    gridRoute_eq raster_eq start_eq goal_eq ranges_eq⟩
  simp only [bne_self_eq_false, Bool.false_and]

end Search

/-- The grid around two points covers both with the margin on every side, and it has at most three
cells more on an axis than are allowed. The first point is the centre of its cell. Whatever the
obstacles are, the search leads from this cell to that of the second point, both being cells of the
grid. -/
theorem gridRoute_inGrid [Lengths] {options : GridOptions ℚ} (positive : 0 < options.cell)
    (roomy : 0 ≤ options.margin) (some_cells : 1 ≤ options.maxCells) (p₁ p₂ : Point ℚ) :
    ∃ raster start goal, Raster.around options p₁ p₂ = .ok raster ∧
      raster.cellOf p₁ = .ok start ∧ raster.cellOf p₂ = .ok goal ∧ raster.center start = p₁ ∧
      raster.size.holds start = true ∧ raster.size.holds goal = true ∧
      raster.Covers options.margin p₁ ∧ raster.Covers options.margin p₂ ∧
      raster.size.columns ≤ options.maxCells + 3 ∧ raster.size.rows ≤ options.maxCells + 3 ∧
      ∀ obstacles, ∃ blocked : GridCell → Bool, blocked start = false ∧
        gridRoute options p₁ p₂ obstacles = .ok ((shortestWay raster.size blocked start goal).map
          fun cells => simplify (wayPoints raster p₁ p₂ cells)) := by
  have cells_ne : options.maxCells ≠ 0 := by omega
  obtain ⟨raster, raster_eq, least⟩ := exists_around_ok positive cells_ne p₁ p₂
  have cell_pos : 0 < raster.cell := positive.trans_le least
  have first := Raster.between_first p₁ p₂
  have second := Raster.between_second p₁ p₂
  obtain ⟨start, start_eq, start_in⟩ := first.exists_cellOf cells_ne raster_eq cell_pos roomy
  obtain ⟨goal, goal_eq, goal_in⟩ := second.exists_cellOf cells_ne raster_eq cell_pos roomy
  obtain ⟨-, center_eq, -⟩ :=
    Raster.center_of_around positive cells_ne roomy raster_eq start_eq
  obtain ⟨columns_le, rows_le⟩ := Raster.size_le_of_around raster_eq cell_pos some_cells
  exact ⟨raster, start, goal, raster_eq, start_eq, goal_eq, center_eq, start_in, goal_in,
    first.covers cells_ne raster_eq cell_pos, second.covers cells_ne raster_eq cell_pos,
    columns_le, rows_le, exists_gridRoute_eq raster_eq start_eq goal_eq cell_pos⟩

/-- A grid of few cells around two points a unit apart. -/
private def coarseGrid : GridOptions ℚ :=
  { cell := 1, margin := 1, maxCells := 2 }

theorem gridRoute_inGrid_coarse :
    let _ : Lengths := Lengths.alongAxes
    (0 < coarseGrid.cell ∧ 0 ≤ coarseGrid.margin ∧ 1 ≤ coarseGrid.maxCells) ∧
      ∃ raster start goal, Raster.around coarseGrid ⟨0, 0⟩ ⟨-1, 0⟩ = .ok raster ∧
        raster.cellOf ⟨0, 0⟩ = .ok start ∧ raster.cellOf ⟨-1, 0⟩ = .ok goal ∧
        raster.center start = ⟨0, 0⟩ ∧ raster.size.holds goal = true ∧
        raster.size.columns = coarseGrid.maxCells + 3 := by
  let _ : Lengths := Lengths.alongAxes
  have positive : 0 < coarseGrid.cell := by decide +kernel
  have roomy : 0 ≤ coarseGrid.margin := by decide +kernel
  have some_cells : 1 ≤ coarseGrid.maxCells := by decide
  obtain ⟨raster, start, goal, raster_eq, start_eq, goal_eq, center_eq, -, goal_in, -⟩ :=
    gridRoute_inGrid positive roomy some_cells ⟨0, 0⟩ ⟨-1, 0⟩
  have measured :
      (Raster.around coarseGrid ⟨0, 0⟩ ⟨-1, 0⟩).map (fun raster => raster.size.columns) = .ok 5 := by
    decide +kernel
  rw [raster_eq] at measured
  exact ⟨⟨positive, roomy, some_cells⟩, raster, start, goal, raster_eq, start_eq, goal_eq,
    center_eq, goal_in, Except.ok.inj measured⟩

end Routing
end ClusterDiagram
