import ClusterDiagram.Proofs.GridExtents
import ClusterDiagram.Proofs.ShortestWays

/-!
# Routes through the grid keep clear

A way through free cells becomes a polyline through their centres. Two of its points follow each
other only where all cells between them are free: a bend of the way is a right angle, which the
reduction to corners never takes for a straight line, and a straight run stays in one row or column.
The last leg runs inside such a run, because the end lies in the last cell.
-/

namespace ClusterDiagram
namespace Routing

section

variable [Lengths]

/-! ## Reduction to corners -/

omit [Lengths] in
theorem of_mem_segments {related : Point ℚ → Point ℚ → Prop} {path : List (Point ℚ)}
    (chain : path.IsChain related) : ∀ segment ∈ segments path, related segment.1 segment.2 := by
  induction path with
  | nil =>
      intro segment segment_mem
      cases segment_mem
  | cons p path induction =>
      cases path with
      | nil =>
          intro segment segment_mem
          cases segment_mem
      | cons q path =>
          rw [List.isChain_cons_cons] at chain
          intro segment segment_mem
          rcases List.mem_cons.mp segment_mem with rfl | later
          · exact chain.1
          · exact induction chain.2 segment later

theorem isNear_self (p : Point ℚ) : isNear p p = true := by
  rw [← Bool.not_eq_false, isNear_eq_false_iff, sub_self, sub_self, abs_zero, or_self]
  norm_num

theorem dropNear_sublist (p : Point ℚ) (path : List (Point ℚ)) :
    (dropNear p path).Sublist path := by
  fun_induction dropNear p path with
  | case1 => exact .refl []
  | case2 p q path near induction => exact .cons q induction
  | case3 p q path far induction => exact .cons_cons q induction

theorem dropStraight_sublist (a : Point ℚ) (path : List (Point ℚ)) :
    (dropStraight a path).Sublist path := by
  fun_induction dropStraight a path with
  | case1 => exact .refl []
  | case2 a p => exact .refl [p]
  | case3 a b c path cross small induction => exact .cons b induction
  | case4 a b c path cross large induction => exact .cons_cons b induction

/-- The last point that is kept is near the end. -/
theorem exists_isNear_of_dropNear (p : Point ℚ) (path : List (Point ℚ)) (goal : Point ℚ) :
    ∃ reached, (p :: dropNear p (path ++ [goal])).getLast? = some reached ∧
      isNear reached goal = true := by
  induction path generalizing p with
  | nil =>
      rw [List.nil_append, dropNear]
      split
      · rename_i near
        exact ⟨p, rfl, near⟩
      · exact ⟨goal, rfl, isNear_self goal⟩
  | cons q path induction =>
      rw [List.cons_append, dropNear]
      split
      · exact induction p
      · rw [List.getLast?_cons_cons]
        exact induction q

theorem getLast?_dropStraight (a : Point ℚ) (path : List (Point ℚ)) :
    (dropStraight a path).getLast? = path.getLast? := by
  fun_induction dropStraight a path with
  | case1 => rfl
  | case2 => rfl
  | case3 a b c path cross small induction => rw [induction, List.getLast?_cons_cons]
  | case4 a b c path cross large induction =>
      rw [List.getLast?_cons_cons, List.getLast?_cons, induction, List.getLast?_cons]
      rfl

theorem simplify_of_dropNear_eq_nil {p : Point ℚ} {path : List (Point ℚ)}
    (dropped : dropNear p path = []) : simplify (p :: path) = [p, p] := by
  rw [simplify, dedupe, dropped]
  rfl

theorem simplify_of_dropNear_eq_cons {p q : Point ℚ} {path rest : List (Point ℚ)}
    (kept : dropNear p path = q :: rest) :
    simplify (p :: path) = p :: dropStraight p (q :: rest) := by
  rw [simplify, dedupe, kept]

/-- The first point is kept, and the last one is near the end. -/
theorem ends_of_simplify (p : Point ℚ) (path : List (Point ℚ)) (goal : Point ℚ) :
    (simplify (p :: (path ++ [goal]))).head? = some p ∧
      ∃ reached, (simplify (p :: (path ++ [goal]))).getLast? = some reached ∧
        isNear reached goal = true := by
  obtain ⟨reached, last, near⟩ := exists_isNear_of_dropNear p path goal
  cases kept : dropNear p (path ++ [goal]) with
  | nil =>
      rw [kept] at last
      rw [simplify_of_dropNear_eq_nil kept]
      exact ⟨rfl, reached, last, near⟩
  | cons q rest =>
      rw [kept] at last
      rw [simplify_of_dropNear_eq_cons kept]
      refine ⟨rfl, reached, ?_, near⟩
      rw [List.getLast?_cons, getLast?_dropStraight, ← List.getLast?_cons, last]

namespace Raster

variable {raster : Raster ℚ}

/-- Whether two points lie in a rectangle of free cells. -/
def Unobstructed (raster : Raster ℚ) (free : GridCell → Prop) (p q : Point ℚ) : Prop :=
  ∃ a b, (∀ cell, Spans a b cell → free cell) ∧ place p ∈ raster.block a b ∧
    place q ∈ raster.block a b

variable {free : GridCell → Prop}

omit [Lengths] in
theorem unobstructed_of_run (positive : 0 < raster.cell) {a b : GridCell}
    (run : ∀ cell, Spans a b cell → free cell) {p q : Point ℚ} (first : place p ∈ raster.block a a)
    (second : place q ∈ raster.block b b) : raster.Unobstructed free p q :=
  ⟨a, b, run, block_mono positive (spans_left a b) first,
    block_mono positive (spans_right a b) second⟩

theorem center_x_sub (a b : GridCell) :
    (raster.center b).x - (raster.center a).x = ((b.1 - a.1 : ℤ) : ℚ) * raster.cell := by
  simp only [center]
  push_cast
  ring

theorem center_y_sub (a b : GridCell) :
    (raster.center b).y - (raster.center a).y = ((b.2 - a.2 : ℤ) : ℚ) * raster.cell := by
  simp only [center]
  push_cast
  ring

variable (coarse : 1 ≤ raster.cell)

include coarse

/-- The centres of three cells that count as straight are in line. -/
theorem bend_eq_zero_of_straight {a b c : GridCell}
    (straight : Scalar.abs (((raster.center b).x - (raster.center a).x) *
      ((raster.center c).y - (raster.center b).y) - ((raster.center b).y - (raster.center a).y) *
        ((raster.center c).x - (raster.center b).x)) < tolerance 6) : bend a b c = 0 := by
  have cross_eq : ((raster.center b).x - (raster.center a).x) *
      ((raster.center c).y - (raster.center b).y) - ((raster.center b).y - (raster.center a).y) *
        ((raster.center c).x - (raster.center b).x) = bend a b c * raster.cell ^ 2 := by
    rw [center_x_sub, center_x_sub, center_y_sub, center_y_sub, bend]
    push_cast
    ring
  rw [Scalar.abs_rational, tolerance_rational, cross_eq, abs_mul,
    abs_of_nonneg (sq_nonneg raster.cell)] at straight
  by_contra bent
  have turned : (1 : ℚ) ≤ |(bend a b c : ℚ)| := by exact_mod_cast Int.one_le_abs bent
  have scaled := mul_le_mul turned (one_le_pow₀ coarse (n := 2)) zero_le_one (abs_nonneg _)
  linarith

/-- The centres of different cells are not near each other. -/
theorem isNear_center_eq_false {a b : GridCell} (different : a ≠ b) :
    isNear (raster.center a) (raster.center b) = false := by
  have moved : 1 ≤ |b.1 - a.1| ∨ 1 ≤ |b.2 - a.2| := by
    by_contra same
    rw [not_or, not_le, not_le, Int.abs_lt_one_iff, Int.abs_lt_one_iff, sub_eq_zero,
      sub_eq_zero] at same
    exact different (Prod.ext same.1.symm same.2.symm)
  have apart : ∀ i j : ℤ, 1 ≤ |j - i| → (1 : ℚ) / 10 ^ 9 ≤ |((j - i : ℤ) : ℚ) * raster.cell| := by
    intro i j distinct
    have distinct : (1 : ℚ) ≤ |((j - i : ℤ) : ℚ)| := by exact_mod_cast distinct
    have scaled := mul_le_mul distinct coarse zero_le_one (abs_nonneg _)
    rw [abs_mul, abs_of_nonneg (zero_le_one.trans coarse)]
    linarith
  rw [isNear_eq_false_iff, center_x_sub, center_y_sub]
  exact moved.imp (apart a.1 b.1) (apart a.2 b.2)

/-- Of a polyline through the centres of neighbouring cells, nothing is near the point before but
perhaps the end. -/
theorem dropNear_centers {start goal : GridCell} {cells : List GridCell}
    (stepwise : IsStepwise (start :: cells)) (last : (start :: cells).getLast? = some goal)
    (p : Point ℚ) : dropNear (raster.center start) (cells.map raster.center ++ [p]) =
      cells.map raster.center ++ dropNear (raster.center goal) [p] := by
  induction cells generalizing start with
  | nil =>
      obtain rfl : start = goal := Option.some.inj last
      rfl
  | cons next cells induction =>
      obtain ⟨step, stepwise⟩ := List.isChain_cons_cons.mp stepwise
      rw [List.getLast?_cons_cons] at last
      have different : start ≠ next := by
        rintro rfl
        rw [stepsBetween_self] at step
        cases step
      rw [List.map_cons, List.cons_append, List.cons_append, dropNear,
        isNear_center_eq_false coarse different, induction stepwise last]
      rfl

/-- The reduction of a polyline through the centres of free cells, and perhaps to an end in the last
cell, leads from point to point through rectangles of free cells. Between the last point that was
kept and the next one all cells are free. -/
theorem isChain_dropStraight {kept next goal : GridCell} {cells : List GridCell}
    (run : ∀ cell, Spans kept next cell → free cell) (stepwise : IsStepwise (next :: cells))
    (last : (next :: cells).getLast? = some goal) (free_cells : ∀ cell ∈ next :: cells, free cell)
    {ends : List (Point ℚ)} (single : ends.length ≤ 1)
    (ends_mem : ∀ p ∈ ends, place p ∈ raster.block goal goal) :
    (raster.center kept :: dropStraight (raster.center kept)
      ((next :: cells).map raster.center ++ ends)).IsChain (raster.Unobstructed free) := by
  have positive : 0 < raster.cell := zero_lt_one.trans_le coarse
  have middle := place_center_mem positive
  have run_self : ∀ cell, free cell → ∀ other, Spans cell cell other → free other :=
    fun cell cell_free other spanned => spans_self_iff.mp spanned ▸ cell_free
  induction cells generalizing kept next with
  | nil =>
      obtain rfl : next = goal := Option.some.inj last
      have direct := unobstructed_of_run positive run (middle kept) (middle next)
      match ends, single with
      | [], _ => exact .cons_cons direct (.singleton _)
      | [p], _ =>
          have p_mem := ends_mem p (List.mem_singleton_self p)
          rw [List.map_singleton, List.singleton_append, dropStraight]
          split
          · exact .cons_cons (unobstructed_of_run positive run (middle kept) p_mem) (.singleton _)
          · have leg := unobstructed_of_run positive
              (run_self next (free_cells next (List.mem_singleton_self next))) (middle next) p_mem
            exact .cons_cons direct (.cons_cons leg (.singleton _))
  | cons after cells induction =>
      obtain ⟨step, stepwise⟩ := List.isChain_cons_cons.mp stepwise
      rw [List.getLast?_cons_cons] at last
      rw [List.forall_mem_cons] at free_cells
      have after_free : free after := free_cells.2 after (List.mem_cons_self ..)
      rw [List.map_cons, List.map_cons, List.cons_append, List.cons_append, dropStraight]
      split
      · rename_i straight
        refine induction (fun cell spanned => ?_) stepwise last free_cells.2
        rcases spanned.of_bend_eq_zero step (bend_eq_zero_of_straight coarse straight) with
          before | rfl
        · exact run cell before
        · exact after_free
      · refine .cons_cons (unobstructed_of_run positive run (middle kept) (middle next))
          (induction (fun cell spanned => ?_) stepwise last free_cells.2)
        rcases spanned.of_step step with rfl | rfl
        · exact free_cells.1
        · exact after_free

/-- The polyline of a way through free cells leads through rectangles of free cells. -/
theorem isChain_simplify_wayPoints {start goal : GridCell} {cells : List GridCell}
    (stepwise : IsStepwise (start :: cells)) (last : (start :: cells).getLast? = some goal)
    (free_cells : ∀ cell ∈ start :: cells, free cell) {p : Point ℚ}
    (p_mem : place p ∈ raster.block goal goal) :
    (simplify (wayPoints raster (raster.center start) p (start :: cells))).IsChain
      (raster.Unobstructed free) := by
  have positive : 0 < raster.cell := zero_lt_one.trans_le coarse
  have middle := place_center_mem positive start
  have kept := dropNear_centers coarse stepwise last p
  rw [wayPoints, List.cons_append]
  cases cells with
  | nil =>
      obtain rfl : start = goal := Option.some.inj last
      have run : ∀ cell, Spans start start cell → free cell := fun cell spanned =>
        spans_self_iff.mp spanned ▸ free_cells start (List.mem_cons_self ..)
      rw [List.map_nil, List.nil_append] at kept ⊢
      rcases List.sublist_singleton.mp (dropNear_sublist (raster.center start) [p]) with
        dropped | kept
      · rw [simplify_of_dropNear_eq_nil dropped]
        exact .cons_cons (unobstructed_of_run positive run middle middle) (.singleton _)
      · rw [simplify_of_dropNear_eq_cons kept]
        exact .cons_cons (unobstructed_of_run positive run middle p_mem) (.singleton _)
  | cons next cells =>
      obtain ⟨step, stepwise⟩ := List.isChain_cons_cons.mp stepwise
      rw [List.getLast?_cons_cons] at last
      rw [simplify_of_dropNear_eq_cons kept]
      refine isChain_dropStraight coarse (fun cell spanned => ?_) stepwise last
        (List.forall_mem_cons.mp free_cells).2 (dropNear_sublist _ [p]).length_le fun q q_mem => ?_
      · rcases spanned.of_step step with rfl | rfl
        · exact free_cells _ (List.mem_cons_self ..)
        · exact free_cells _ (List.mem_cons_of_mem _ (List.mem_cons_self ..))
      · obtain rfl := List.mem_singleton.mp ((dropNear_sublist _ [p]).subset q_mem)
        exact p_mem

end Raster

/-! ## Free cells -/

/-- Whether a cell lies in the grid and no obstacle overlaps it. -/
structure Raster.IsFree (raster : Raster ℚ) (obstacles : List (Obstacle ℚ)) (cell : GridCell) :
    Prop where
  /-- The cell lies in the grid. -/
  inside : raster.size.holds cell = true
  /-- The cell is overlapped by no obstacle. -/
  apart : ∀ obstacle ∈ obstacles, ∀ range, blockedRange raster obstacle.toBox = .ok range →
    range.holds cell = false

/-- A segment in a rectangle of free cells touches no obstacle. -/
theorem Raster.Unobstructed.touches_eq_false {raster : Raster ℚ} {obstacles : List (Obstacle ℚ)}
    {p q : Point ℚ} (unobstructed : raster.Unobstructed (raster.IsFree obstacles) p q)
    (positive : 0 < raster.cell) {obstacle : Obstacle ℚ} (obstacle_mem : obstacle ∈ obstacles)
    (upright : obstacle.left ≤ obstacle.right) (downright : obstacle.top ≤ obstacle.bottom) :
    obstacle.touches p q = false := by
  rw [← Bool.not_eq_true]
  intro touched
  obtain ⟨a, b, run, first, second⟩ := unobstructed
  obtain ⟨point, on_line, in_box⟩ := Box.meets_of_touches upright downright touched
  obtain ⟨cell, spanned, in_cell⟩ :=
    exists_mem_block positive (line_subset_block first second on_line)
  obtain ⟨range, range_eq⟩ := exists_blockedRange_ok positive.ne' obstacle.toBox
  have free := run cell spanned
  exact not_mem_region_of_not_holds positive range_eq free.inside
    (free.apart obstacle obstacle_mem range range_eq) in_cell in_box

/-- The cells of a way are free when no obstacle overlaps its ends. -/
theorem isFree_of_isWay {raster : Raster ℚ} {obstacles : List (Obstacle ℚ)}
    {ranges : List CellRange} {start goal : GridCell} {way : List GridCell}
    (ranges_eq : obstacles.mapM (fun obstacle => blockedRange raster obstacle.toBox) = .ok ranges)
    (open_ends : ∀ obstacle ∈ obstacles, ∀ range, blockedRange raster obstacle.toBox = .ok range →
      range.holds start = false ∧ range.holds goal = false)
    (isWay : IsWay raster.size (fun cell => cell != start && ranges.any (·.holds cell)) start goal
      way) : ∀ cell ∈ way, raster.IsFree obstacles cell := by
  intro cell cell_mem
  refine ⟨isWay.inside cell cell_mem, fun obstacle obstacle_mem range range_eq => ?_⟩
  have ends := open_ends obstacle obstacle_mem range range_eq
  obtain ⟨cells, rfl, entered⟩ := isWay.exists_steps
  rcases List.mem_cons.mp cell_mem with rfl | later
  · exact ends.1
  · obtain ⟨-, rfl | passable⟩ := mayEnter_iff.mp (entered cell later)
    · exact ends.2
    · rcases Bool.and_eq_false_iff.mp passable with at_start | unblocked
      · obtain rfl : cell = start := by simpa using at_start
        exact ends.1
      · obtain ⟨listed, listed_mem, listed_eq⟩ := exists_mem_of_mapM ranges_eq obstacle_mem
        obtain rfl : range = listed := Except.ok.inj (range_eq.symm.trans listed_eq)
        exact Bool.eq_false_of_not_eq_true (List.any_eq_false.mp unblocked range listed_mem)

/-- A route through the grid touches no obstacle, provided that no obstacle overlaps the cells of
the two points. It begins at the first point and ends at or near the second one. -/
theorem gridRoute_avoids {p₁ p₂ : Point ℚ} {obstacles : List (Obstacle ℚ)} {raster : Raster ℚ}
    {start goal : GridCell} {path : List (Point ℚ)}
    (ordered : ∀ obstacle ∈ obstacles,
      obstacle.left ≤ obstacle.right ∧ obstacle.top ≤ obstacle.bottom)
    (raster_eq : Raster.around GridOptions.standard p₁ p₂ = .ok raster)
    (start_eq : raster.cellOf p₁ = .ok start) (goal_eq : raster.cellOf p₂ = .ok goal)
    (open_ends : ∀ obstacle ∈ obstacles, ∀ range, blockedRange raster obstacle.toBox = .ok range →
      range.holds start = false ∧ range.holds goal = false)
    (done : gridRoute GridOptions.standard p₁ p₂ obstacles = .ok (some path)) :
    isClear path obstacles = true ∧ path.head? = some p₁ ∧
      ∃ last, path.getLast? = some last ∧ |last.x - p₂.x| < 1 / 10 ^ 9 ∧
        |last.y - p₂.y| < 1 / 10 ^ 9 := by
  have cell_pos : 1 ≤ (GridOptions.standard : GridOptions ℚ).cell := by
    change (1 : ℚ) ≤ ((10 : ℕ) : ℚ)
    norm_num
  have some_cells : (160 : ℤ) ≠ 0 := by decide
  have roomy : 0 ≤ (GridOptions.standard : GridOptions ℚ).margin := Nat.cast_nonneg 160
  obtain ⟨least, center_eq, inside⟩ :=
    Raster.center_of_around (zero_lt_one.trans_le cell_pos) some_cells roomy raster_eq start_eq
  have coarse : 1 ≤ raster.cell := cell_pos.trans least
  have positive : 0 < raster.cell := zero_lt_one.trans_le coarse
  obtain ⟨_, same, done⟩ := ok_of_bind done
  obtain rfl := Except.ok.inj (raster_eq.symm.trans same)
  obtain ⟨_, same, done⟩ := ok_of_bind done
  obtain rfl := Except.ok.inj (start_eq.symm.trans same)
  obtain ⟨_, same, done⟩ := ok_of_bind done
  obtain rfl := Except.ok.inj (goal_eq.symm.trans same)
  obtain ⟨ranges, ranges_eq, done⟩ := ok_of_bind done
  obtain ⟨way, found, rfl⟩ := Option.map_eq_some_iff.mp (Except.ok.inj done)
  have isWay := (isWay_of_shortestWay inside found).1
  have free_cells := isFree_of_isWay ranges_eq open_ends isWay
  obtain ⟨cells, rfl, -⟩ := isWay.exists_steps
  have goal_mem := (Raster.cellOf_eq_ok_iff positive).mp goal_eq
  have chain :=
    Raster.isChain_simplify_wayPoints coarse isWay.stepwise isWay.last free_cells goal_mem
  rw [center_eq] at chain
  obtain ⟨first, last, last_eq, near⟩ := ends_of_simplify p₁ (cells.map raster.center) p₂
  refine ⟨?_, first, last, last_eq, isNear_iff.mp near⟩
  refine isClear_iff.mpr fun obstacle obstacle_mem segment segment_mem => ?_
  obtain ⟨upright, downright⟩ := ordered obstacle obstacle_mem
  exact (of_mem_segments chain segment segment_mem).touches_eq_false positive obstacle_mem upright
    downright

end

/-- A way through the cells of a grid gives a route. -/
theorem gridRoute_of_shortestWay [Lengths] {options : GridOptions ℚ} {p₁ p₂ : Point ℚ}
    {obstacles : List (Obstacle ℚ)} {raster : Raster ℚ} {start goal : GridCell}
    {ranges : List CellRange} {way : List GridCell}
    (raster_eq : Raster.around options p₁ p₂ = .ok raster) (start_eq : raster.cellOf p₁ = .ok start)
    (goal_eq : raster.cellOf p₂ = .ok goal)
    (ranges_eq : obstacles.mapM (fun obstacle => blockedRange raster obstacle.toBox) = .ok ranges)
    (found : shortestWay raster.size (fun cell => cell != start && ranges.any (·.holds cell)) start
      goal = some way) :
    gridRoute options p₁ p₂ obstacles = .ok (some (simplify (wayPoints raster p₁ p₂ way))) := by
  rw [gridRoute_eq raster_eq start_eq goal_eq ranges_eq, found, Option.map_some]

/-- Lengths along the axes. -/
@[reducible] private def gridLengths : Lengths where
  hypot x y := |x| + |y|
  heading _ _ := (1, 0)

/-- An obstacle between two points. -/
private def block : Obstacle ℚ :=
  { left := 8, right := 12, top := -2, bottom := 2, id := "block", center := ⟨10, 0⟩ }

theorem gridRoute_avoids_block :
    let _ : Lengths := gridLengths
    ∃ path, gridRoute GridOptions.standard ⟨0, 0⟩ ⟨20, 0⟩ [block] = .ok (some path) ∧
      isClear path [block] = true ∧ path.head? = some ⟨0, 0⟩ := by
  let _ : Lengths := gridLengths
  have measured : (Raster.around (GridOptions.standard : GridOptions ℚ) ⟨0, 0⟩ ⟨20, 0⟩).map
      (fun raster => (raster.left, raster.top, raster.cell, raster.size)) =
        .ok (-165, -165, 10, ⟨36, 34⟩) := by
    decide +kernel
  obtain ⟨⟨left, top, cell, size⟩, raster_eq, fields⟩ := ok_of_map measured
  simp only [Prod.mk.injEq] at fields
  obtain ⟨rfl, rfl, rfl, rfl⟩ := fields
  have start_eq : (⟨-165, -165, 10, ⟨36, 34⟩⟩ : Raster ℚ).cellOf ⟨0, 0⟩ = .ok (16, 16) := by
    decide +kernel
  have goal_eq : (⟨-165, -165, 10, ⟨36, 34⟩⟩ : Raster ℚ).cellOf ⟨20, 0⟩ = .ok (18, 16) := by
    decide +kernel
  have overlapped : (blockedRange (⟨-165, -165, 10, ⟨36, 34⟩⟩ : Raster ℚ) block.toBox).map
      (fun range => (range.columns, range.rows)) = .ok ((17, 17), (16, 16)) := by
    decide +kernel
  obtain ⟨⟨columns, rows⟩, range_eq, fields⟩ := ok_of_map overlapped
  simp only [Prod.mk.injEq] at fields
  obtain ⟨rfl, rfl⟩ := fields
  have around : IsWay ⟨36, 34⟩ (fun cell => cell != (16, 16) &&
      [(⟨(17, 17), (16, 16)⟩ : CellRange)].any (·.holds cell)) (16, 16) (18, 16)
        [(16, 16), (16, 15), (17, 15), (18, 15), (18, 16)] :=
    ⟨rfl, rfl, by unfold IsStepwise; decide, by decide, by decide⟩
  obtain ⟨way, found⟩ := exists_shortestWay_of_isWay (by decide) around
  have ranges_eq : [block].mapM (fun obstacle =>
      blockedRange (⟨-165, -165, 10, ⟨36, 34⟩⟩ : Raster ℚ) obstacle.toBox) =
        .ok [⟨(17, 17), (16, 16)⟩] := by
    rw [List.mapM_cons, List.mapM_nil, range_eq]
    rfl
  have done := gridRoute_of_shortestWay raster_eq start_eq goal_eq ranges_eq found
  have ordered : ∀ obstacle ∈ [block],
      obstacle.left ≤ obstacle.right ∧ obstacle.top ≤ obstacle.bottom := by
    decide +kernel
  have open_ends : ∀ obstacle ∈ [block], ∀ range,
      blockedRange (⟨-165, -165, 10, ⟨36, 34⟩⟩ : Raster ℚ) obstacle.toBox = .ok range →
        range.holds (16, 16) = false ∧ range.holds (18, 16) = false := by
    intro obstacle obstacle_mem range range_done
    obtain rfl := List.mem_singleton.mp obstacle_mem
    obtain rfl := Except.ok.inj (range_eq.symm.trans range_done)
    decide
  obtain ⟨clear, first, -⟩ := gridRoute_avoids ordered raster_eq start_eq goal_eq open_ends done
  exact ⟨_, done, clear, first⟩

end Routing
end ClusterDiagram
