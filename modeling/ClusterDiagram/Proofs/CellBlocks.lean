import ClusterDiagram.Proofs.BoxContact

/-!
# Blocks of cells

A cell of a grid takes up a square of the plane, its left and top sides included, and the cells
between two cells take up a rectangle. Over exact numbers a box that overlaps none of these cells
shares no point with the rectangle, whichever borders of cells its sides lie on.
-/

namespace ClusterDiagram
namespace Routing

/-! ## Rows of cells -/

/-- The part of an axis that the cells between two cells take up, both included. -/
def band (start cell : ℚ) (i j : ℤ) : Set ℝ :=
  Set.Ico ((start + min i j * cell : ℚ) : ℝ) ((start + (max i j + 1) * cell : ℚ) : ℝ)

theorem band_mono {start cell : ℚ} (positive : 0 < cell) {i j k l : ℤ} (least : min i j ≤ min k l)
    (greatest : max k l ≤ max i j) : band start cell k l ⊆ band start cell i j := by
  have least_cast : ((min i j : ℤ) : ℚ) ≤ (min k l : ℤ) := by exact_mod_cast least
  have greatest_cast : ((max k l : ℤ) : ℚ) ≤ (max i j : ℤ) := by exact_mod_cast greatest
  apply Set.Ico_subset_Ico
  · exact_mod_cast add_le_add_right (mul_le_mul_of_nonneg_right least_cast positive.le) start
  · exact_mod_cast add_le_add_right
      (mul_le_mul_of_nonneg_right (add_le_add_left greatest_cast 1) positive.le) start

/-- Every number of a band lies in one of its cells. -/
theorem exists_mem_band {start cell : ℚ} (positive : 0 < cell) {i j : ℤ} {x : ℝ}
    (x_mem : x ∈ band start cell i j) :
    ∃ k, min i j ≤ k ∧ k ≤ max i j ∧ x ∈ band start cell k k := by
  have positive : (0 : ℝ) < cell := by exact_mod_cast positive
  obtain ⟨least, greatest⟩ := x_mem
  push_cast at least greatest
  refine ⟨⌊(x - start) / cell⌋, ?_, ?_, ?_, ?_⟩
  · refine Int.le_floor.mpr ((le_div_iff₀ positive).mpr ?_)
    push_cast
    linarith
  · refine Int.lt_add_one_iff.mp (Int.floor_lt.mpr ((div_lt_iff₀ positive).mpr ?_))
    push_cast
    linarith
  · have below := (le_div_iff₀ positive).mp (Int.floor_le ((x - start) / cell))
    rw [min_self]
    push_cast
    linarith
  · have above := (div_lt_iff₀ positive).mp (Int.lt_floor_add_one ((x - start) / cell))
    rw [max_self]
    push_cast
    linarith

section

variable [Lengths]

theorem Raster.index_eq_ok_iff {start cell a : ℚ} (positive : 0 < cell) {i : ℤ} :
    Raster.index start cell a = .ok i ↔ (a : ℝ) ∈ band start cell i i := by
  have divided : Raster.index start cell a = .ok ⌊(a - start) / cell⌋ := by
    rw [Raster.index, divide_of_ne_zero positive.ne']
    rfl
  rw [divided, Except.ok.injEq, Int.floor_eq_iff, le_div_iff₀ positive, div_lt_iff₀ positive,
    le_sub_iff_add_le', sub_lt_iff_lt_add', band, min_self, max_self, Set.mem_Ico, Rat.cast_le,
    Rat.cast_lt]

/-- A cell that does not lie between those of two coordinates lies wholly before the first or
wholly behind the second. -/
theorem Raster.apart_of_index {start cell a b : ℚ} (positive : 0 < cell) {first last i : ℤ}
    (first_eq : Raster.index start cell a = .ok first)
    (last_eq : Raster.index start cell b = .ok last) (outside : i < first ∨ last < i) {x : ℝ}
    (x_mem : x ∈ band start cell i i) : x < a ∨ b < x := by
  rw [Raster.index_eq_ok_iff positive] at first_eq last_eq
  have positive : (0 : ℝ) ≤ cell := by exact_mod_cast positive.le
  simp only [band, min_self, max_self, Set.mem_Ico] at first_eq last_eq x_mem
  push_cast at first_eq last_eq x_mem
  refine outside.imp (fun before => ?_) fun behind => ?_
  · have before : (i : ℝ) + 1 ≤ first := by exact_mod_cast before
    have scaled := mul_le_mul_of_nonneg_right before positive
    linarith
  · have behind : (last : ℝ) + 1 ≤ i := by exact_mod_cast behind
    have scaled := mul_le_mul_of_nonneg_right behind positive
    linarith

end

/-! ## Rectangles of cells -/

/-- Whether a cell lies in the rectangle that two cells span. -/
def Spans (a b cell : GridCell) : Prop :=
  min a.1 b.1 ≤ cell.1 ∧ cell.1 ≤ max a.1 b.1 ∧ min a.2 b.2 ≤ cell.2 ∧ cell.2 ≤ max a.2 b.2

theorem spans_self_iff {a cell : GridCell} : Spans a a cell ↔ cell = a := by
  simp only [Spans, min_self, max_self, Prod.ext_iff]
  omega

theorem spans_left (a b : GridCell) : Spans a b a :=
  ⟨min_le_left _ _, le_max_left _ _, min_le_left _ _, le_max_left _ _⟩

theorem spans_right (a b : GridCell) : Spans a b b :=
  ⟨min_le_right _ _, le_max_right _ _, min_le_right _ _, le_max_right _ _⟩

/-- A step spans no cells but its ends. -/
theorem Spans.of_step {a b cell : GridCell} (spanned : Spans a b cell)
    (step : stepsBetween a b = 1) : cell = a ∨ cell = b := by
  simp only [Spans, stepsBetween, Prod.ext_iff] at *
  omega

/-- How far a bend of three cells is from being straight. -/
def bend (a b c : GridCell) : ℤ :=
  (b.1 - a.1) * (c.2 - b.2) - (b.2 - a.2) * (c.1 - b.1)

/-- A step that goes on straight spans no cells but the one it leads to. -/
theorem Spans.of_bend_eq_zero {a b c cell : GridCell} (spanned : Spans a c cell)
    (step : stepsBetween b c = 1) (straight : bend a b c = 0) : Spans a b cell ∨ cell = c := by
  have in_line : b.1 = c.1 ∧ a.1 = b.1 ∨ b.2 = c.2 ∧ a.2 = b.2 := by
    have upright_or_level : c.1 - b.1 = 0 ∧ c.2 - b.2 ≠ 0 ∨ c.2 - b.2 = 0 ∧ c.1 - b.1 ≠ 0 := by
      simp only [stepsBetween] at step
      omega
    rw [bend] at straight
    rcases upright_or_level with ⟨upright, moved⟩ | ⟨level, moved⟩
    · rw [upright, mul_zero, sub_zero] at straight
      have same := (mul_eq_zero.mp straight).resolve_right moved
      exact .inl ⟨by omega, by omega⟩
    · rw [level, mul_zero, zero_sub, neg_eq_zero] at straight
      have same := (mul_eq_zero.mp straight).resolve_right moved
      exact .inr ⟨by omega, by omega⟩
  simp only [Spans, stepsBetween, Prod.ext_iff] at *
  omega

/-- The part of the plane that the cells between two cells take up. -/
def Raster.block (raster : Raster ℚ) (a b : GridCell) : Set (ℝ × ℝ) :=
  band raster.left raster.cell a.1 b.1 ×ˢ band raster.top raster.cell a.2 b.2

namespace Raster

variable {raster : Raster ℚ}

theorem line_subset_block {a b : GridCell} {p q : Point ℚ} (first : place p ∈ raster.block a b)
    (second : place q ∈ raster.block a b) : line p q ⊆ raster.block a b :=
  ((convex_Ico _ _).prod (convex_Ico _ _)).segment_subset first second

variable (positive : 0 < raster.cell)

include positive

theorem block_mono {a b cell : GridCell} (spanned : Spans a b cell) :
    raster.block cell cell ⊆ raster.block a b := by
  obtain ⟨left, right, top, bottom⟩ := spanned
  apply Set.prod_mono
  · exact band_mono positive (by rwa [min_self]) (by rwa [max_self])
  · exact band_mono positive (by rwa [min_self]) (by rwa [max_self])

theorem exists_mem_block {a b : GridCell} {q : ℝ × ℝ} (q_mem : q ∈ raster.block a b) :
    ∃ cell, Spans a b cell ∧ q ∈ raster.block cell cell := by
  obtain ⟨column, left, right, in_column⟩ := exists_mem_band positive q_mem.1
  obtain ⟨row, top, bottom, in_row⟩ := exists_mem_band positive q_mem.2
  exact ⟨(column, row), ⟨left, right, top, bottom⟩, in_column, in_row⟩

variable [Lengths]

theorem place_center_mem (cell : GridCell) :
    place (raster.center cell) ∈ raster.block cell cell := by
  have middle : ∀ (start : ℚ) (i : ℤ),
      ((start + (i + ((1 : ℕ) : ℚ) / ((2 : ℕ) : ℚ)) * raster.cell : ℚ) : ℝ) ∈
        band start raster.cell i i := by
    intro start i
    simp only [band, min_self, max_self, Set.mem_Ico, Rat.cast_le, Rat.cast_lt]
    push_cast
    constructor
    · linarith
    · linarith
  exact ⟨middle raster.left cell.1, middle raster.top cell.2⟩

theorem cellOf_eq_ok_iff {p : Point ℚ} {cell : GridCell} :
    raster.cellOf p = .ok cell ↔ place p ∈ raster.block cell cell := by
  constructor
  · intro done
    obtain ⟨column, column_eq, done⟩ := ok_of_bind done
    obtain ⟨row, row_eq, done⟩ := ok_of_bind done
    cases done
    exact ⟨(index_eq_ok_iff positive).mp column_eq, (index_eq_ok_iff positive).mp row_eq⟩
  · rintro ⟨in_column, in_row⟩
    rw [cellOf, (index_eq_ok_iff positive).mpr in_column, (index_eq_ok_iff positive).mpr in_row]
    rfl

/-- A box that does not overlap a cell of the grid shares no point with it. -/
theorem not_mem_region_of_not_holds {box : Box ℚ} {range : CellRange} {cell : GridCell}
    (range_eq : blockedRange raster box = .ok range) (inside : raster.size.holds cell = true)
    (free : range.holds cell = false) {q : ℝ × ℝ} (q_mem : q ∈ raster.block cell cell) :
    q ∉ box.region := by
  obtain ⟨left, left_eq, range_eq⟩ := ok_of_bind range_eq
  obtain ⟨right, right_eq, range_eq⟩ := ok_of_bind range_eq
  obtain ⟨top, top_eq, range_eq⟩ := ok_of_bind range_eq
  obtain ⟨bottom, bottom_eq, range_eq⟩ := ok_of_bind range_eq
  cases range_eq
  simp only [GridSize.holds, Bool.and_eq_true, decide_eq_true_eq] at inside
  have outside : (cell.1 < left ∨ right < cell.1) ∨ cell.2 < top ∨ bottom < cell.2 := by
    rw [← Bool.not_eq_true, CellRange.holds] at free
    simp only [Bool.and_eq_true, decide_eq_true_eq, max_le_iff, le_min_iff] at free
    omega
  rw [Box.mem_region_iff]
  rintro ⟨after_left, before_right, after_top, before_bottom⟩
  rcases outside with beside | beyond
  · rcases apart_of_index positive left_eq right_eq beside q_mem.1 with before | behind
    · exact not_le_of_gt before after_left
    · exact not_le_of_gt behind before_right
  · rcases apart_of_index positive top_eq bottom_eq beyond q_mem.2 with before | behind
    · exact not_le_of_gt before after_top
    · exact not_le_of_gt behind before_bottom

end Raster
end Routing
end ClusterDiagram
