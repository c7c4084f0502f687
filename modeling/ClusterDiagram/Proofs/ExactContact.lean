import ClusterDiagram.Proofs.BoxContact

/-!
# Boxes that are met

Over exact numbers a segment that shares a point with a box is reported to touch it, unless the
segment or the box is so small that all four sides count as parallel to the segment. The box of an
icon is large enough for every polyline without tiny legs, so that a clear detour shares no point
with any box.
-/

namespace ClusterDiagram
namespace Routing

/-! ## Polylines without tiny legs -/

section

variable {α : Type} [Scalar α]

theorem isNear_of_mem_segments_dropNear {p : Point α} {path : List (Point α)} :
    ∀ segment ∈ segments (p :: dropNear p path), isNear segment.1 segment.2 = false := by
  induction path generalizing p with
  | nil =>
      intro segment segment_mem
      cases segment_mem
  | cons q path follows =>
      rw [dropNear]
      split
      · exact follows
      · rename_i far
        intro segment segment_mem
        rcases List.mem_cons.mp segment_mem with rfl | later
        · exact Bool.eq_false_of_not_eq_true far
        · exact follows segment later

/-- What stays of a polyline is a single point kept twice, or has no two neighbours that are near
each other. -/
theorem repeated_or_far_of_dedupe (path : List (Point α)) :
    (∃ p, dedupe path = [p, p]) ∨
      ∀ segment ∈ segments (dedupe path), isNear segment.1 segment.2 = false := by
  cases path with
  | nil =>
      right
      intro segment segment_mem
      cases segment_mem
  | cons p path =>
      rw [dedupe]
      split
      · exact .inl ⟨p, rfl⟩
      · exact .inr isNear_of_mem_segments_dropNear

end

section

variable [Lengths]

/-! ## Symmetries -/

theorem segmentsIntersect_swap_first (p₁ p₂ p₃ p₄ : Point ℚ) :
    segmentsIntersect p₂ p₁ p₃ p₄ = segmentsIntersect p₁ p₂ p₃ p₄ := by
  have skew_eq : skew p₂ p₁ p₃ p₄ = -skew p₁ p₂ p₃ p₄ := by
    simp only [skew]
    ring
  have turned : ∀ p, orientation p₂ p₁ p = -orientation p₁ p₂ p := fun p => by
    simp only [orientation]
    ring
  rw [Bool.eq_iff_iff, segmentsIntersect_iff, segmentsIntersect_iff, skew_eq, abs_neg, turned,
    turned, neg_mul_neg, mul_comm (orientation p₃ p₄ p₂)]

theorem segmentsIntersect_swap_second (p₁ p₂ p₃ p₄ : Point ℚ) :
    segmentsIntersect p₁ p₂ p₄ p₃ = segmentsIntersect p₁ p₂ p₃ p₄ := by
  have skew_eq : skew p₁ p₂ p₄ p₃ = -skew p₁ p₂ p₃ p₄ := by
    simp only [skew]
    ring
  have turned : ∀ p, orientation p₄ p₃ p = -orientation p₃ p₄ p := fun p => by
    simp only [orientation]
    ring
  rw [Bool.eq_iff_iff, segmentsIntersect_iff, segmentsIntersect_iff, skew_eq, abs_neg, turned,
    turned, neg_mul_neg, mul_comm (orientation p₁ p₂ p₄)]

theorem Box.touches_swap (box : Box ℚ) (p₁ p₂ : Point ℚ) :
    box.touches p₂ p₁ = box.touches p₁ p₂ := by
  rw [Bool.eq_iff_iff, Box.touches_iff, Box.touches_iff]
  simp only [Box.Overlaps, Box.CrossedBy, segmentsIntersect_swap_first p₁ p₂, max_comm p₂.x,
    min_comm p₂.x, max_comm p₂.y, min_comm p₂.y]
  rw [or_left_comm]

omit [Lengths] in
theorem Box.meets_swap {box : Box ℚ} {p₁ p₂ : Point ℚ} : box.Meets p₂ p₁ ↔ box.Meets p₁ p₂ := by
  rw [Box.Meets, Box.Meets, line, line, segment_symm]

/-- The point turned upside down. -/
def flip (p : Point ℚ) : Point ℚ :=
  ⟨p.x, -p.y⟩

/-- The box turned upside down. -/
def Box.flip (box : Box ℚ) : Box ℚ :=
  ⟨box.left, box.right, -box.bottom, -box.top⟩

theorem segmentsIntersect_flip (p₁ p₂ p₃ p₄ : Point ℚ) :
    segmentsIntersect (flip p₁) (flip p₂) (flip p₃) (flip p₄) = segmentsIntersect p₁ p₂ p₃ p₄ := by
  have skew_eq : skew (flip p₁) (flip p₂) (flip p₃) (flip p₄) = -skew p₁ p₂ p₃ p₄ := by
    simp only [skew, flip]
    ring
  have turned : ∀ o a b, orientation (flip o) (flip a) (flip b) = -orientation o a b :=
    fun o a b => by
      simp only [orientation, flip]
      ring
  rw [Bool.eq_iff_iff, segmentsIntersect_iff, segmentsIntersect_iff, skew_eq, abs_neg, turned,
    turned, turned, turned, neg_mul_neg, neg_mul_neg]

theorem Box.touches_flip (box : Box ℚ) (p₁ p₂ : Point ℚ) :
    box.flip.touches (Routing.flip p₁) (Routing.flip p₂) = box.touches p₁ p₂ := by
  have overlaps : box.flip.Overlaps (Routing.flip p₁) (Routing.flip p₂) ↔ box.Overlaps p₁ p₂ := by
    simp only [Box.Overlaps, Box.flip, Routing.flip, max_neg_neg, min_neg_neg, neg_le_neg_iff]
    tauto
  have holds : ∀ p, box.flip.holds (Routing.flip p) = true ↔ box.holds p = true := fun p => by
    simp only [Box.holds_iff, Box.flip, Routing.flip, neg_le_neg_iff]
    tauto
  have sides : box.flip.CrossedBy (Routing.flip p₁) (Routing.flip p₂) ↔ box.CrossedBy p₁ p₂ := by
    have turned : ∀ x₁ y₁ x₂ y₂, segmentsIntersect (Routing.flip p₁) (Routing.flip p₂)
        ⟨x₁, -y₁⟩ ⟨x₂, -y₂⟩ = segmentsIntersect p₁ p₂ ⟨x₁, y₁⟩ ⟨x₂, y₂⟩ :=
      fun x₁ y₁ x₂ y₂ => segmentsIntersect_flip p₁ p₂ ⟨x₁, y₁⟩ ⟨x₂, y₂⟩
    simp only [Box.CrossedBy, Box.flip, turned,
      segmentsIntersect_swap_second _ _ ⟨_, box.top⟩ ⟨_, box.bottom⟩]
    tauto
  rw [Bool.eq_iff_iff, Box.touches_iff, Box.touches_iff, overlaps, holds, holds, sides]

omit [Lengths] in
theorem Box.meets_flip {box : Box ℚ} {p₁ p₂ : Point ℚ} :
    box.flip.Meets (Routing.flip p₁) (Routing.flip p₂) ↔ box.Meets p₁ p₂ := by
  have turned : ∀ part : ℝ, between (Routing.flip p₁) (Routing.flip p₂) part ∈ box.flip.region ↔
      between p₁ p₂ part ∈ box.region := fun part => by
    have upside : -(p₁.y : ℝ) + part * (-p₂.y - -p₁.y) = -(p₁.y + part * (p₂.y - p₁.y)) := by
      ring
    simp only [Box.mem_region_iff, between_fst, between_snd, Box.flip, Routing.flip, Rat.cast_neg,
      upside, neg_le_neg_iff]
    tauto
  simp only [Box.meets_iff, turned]

/-! ## Boxes that are met -/

omit [Lengths] in
/-- A direction that leaves the quadrant of a corner leaves it through one of the two sides. -/
theorem side_of_corner {dx dy u v : ℚ} (rightward : 0 ≤ dx) (downward : 0 ≤ dy)
    (outside : 0 < u ∨ 0 < v) :
    0 ≤ v ∧ 0 ≤ dx * v - dy * u ∨ 0 ≤ u ∧ dx * v - dy * u ≤ 0 := by
  rcases lt_or_ge u 0 with left | right
  · have above : 0 < v := outside.resolve_left (not_lt.mpr left.le)
    exact .inl ⟨above.le,
      sub_nonneg.mpr ((mul_nonpos_of_nonneg_of_nonpos downward left.le).trans
        (mul_nonneg rightward above.le))⟩
  · rcases lt_or_ge v 0 with below | above
    · exact .inr ⟨right, sub_nonpos.mpr ((mul_nonpos_of_nonneg_of_nonpos rightward below.le).trans
        (mul_nonneg downward right))⟩
    · rcases le_total 0 (dx * v - dy * u) with turn | turn
      · exact .inl ⟨above, turn⟩
      · exact .inr ⟨right, turn⟩

/-- A segment crosses an upright side whose ends lie on different sides of it. -/
theorem segmentsIntersect_upright {p₁ p₂ : Point ℚ} {x top bottom : ℚ}
    (steep : 1 / 10 ^ 10 ≤ (p₂.x - p₁.x) * (bottom - top)) (before : p₁.x ≤ x) (after : x ≤ p₂.x)
    (upper : orientation p₁ p₂ ⟨x, top⟩ ≤ 0) (lower : 0 ≤ orientation p₁ p₂ ⟨x, bottom⟩) :
    segmentsIntersect p₁ p₂ ⟨x, top⟩ ⟨x, bottom⟩ = true := by
  have skew_eq : skew p₁ p₂ ⟨x, top⟩ ⟨x, bottom⟩ = (p₂.x - p₁.x) * (bottom - top) := by
    simp only [skew]
    ring
  have straddles : orientation ⟨x, top⟩ ⟨x, bottom⟩ p₁ * orientation ⟨x, top⟩ ⟨x, bottom⟩ p₂ =
      -((bottom - top) ^ 2 * ((x - p₁.x) * (p₂.x - x))) := by
    simp only [orientation]
    ring
  have apart := mul_nonneg (sub_nonneg.mpr before) (sub_nonneg.mpr after)
  refine segmentsIntersect_iff.mpr ⟨?_, mul_nonpos_of_nonpos_of_nonneg upper lower, ?_⟩
  · exact skew_eq ▸ steep.trans (le_abs_self _)
  · exact straddles ▸ neg_nonpos.mpr (mul_nonneg (sq_nonneg _) apart)

/-- A segment crosses a level side whose ends lie on different sides of it. -/
theorem segmentsIntersect_level {p₁ p₂ : Point ℚ} {y left right : ℚ}
    (flat : 1 / 10 ^ 10 ≤ (p₂.y - p₁.y) * (right - left)) (before : p₁.y ≤ y) (after : y ≤ p₂.y)
    (first : 0 ≤ orientation p₁ p₂ ⟨left, y⟩) (second : orientation p₁ p₂ ⟨right, y⟩ ≤ 0) :
    segmentsIntersect p₁ p₂ ⟨left, y⟩ ⟨right, y⟩ = true := by
  have skew_eq : skew p₁ p₂ ⟨left, y⟩ ⟨right, y⟩ = -((p₂.y - p₁.y) * (right - left)) := by
    simp only [skew]
    ring
  have straddles : orientation ⟨left, y⟩ ⟨right, y⟩ p₁ * orientation ⟨left, y⟩ ⟨right, y⟩ p₂ =
      -((right - left) ^ 2 * ((y - p₁.y) * (p₂.y - y))) := by
    simp only [orientation]
    ring
  have apart := mul_nonneg (sub_nonneg.mpr before) (sub_nonneg.mpr after)
  refine segmentsIntersect_iff.mpr ⟨?_, mul_nonpos_of_nonneg_of_nonpos first second, ?_⟩
  · rw [skew_eq, abs_neg]
    exact flat.trans (le_abs_self _)
  · exact straddles ▸ neg_nonpos.mpr (mul_nonneg (sq_nonneg _) apart)

/-- What it takes for a side of a box not to count as parallel to every segment. -/
structure Box.Sizable (box : Box ℚ) : Prop where
  /-- The sides are in order. -/
  upright : box.left < box.right
  /-- The top lies above the bottom. -/
  downright : box.top < box.bottom
  /-- The area is not below the tolerance. -/
  area : 1 / 10 ^ 10 ≤ (box.right - box.left) * (box.bottom - box.top)

/-- Whether a segment is so long that some side of a box does not count as parallel to it. -/
def Box.Resolves (box : Box ℚ) (p₁ p₂ : Point ℚ) : Prop :=
  1 / 10 ^ 10 ≤
    max (|p₂.x - p₁.x| * (box.bottom - box.top)) (|p₂.y - p₁.y| * (box.right - box.left))

/-- A segment that runs to the right and downwards and meets a box passes the lower left corner
above and the upper right corner below. -/
theorem Box.Meets.passes {box : Box ℚ} {p₁ p₂ : Point ℚ} (met : box.Meets p₁ p₂)
    (rightward : p₁.x ≤ p₂.x) (downward : p₁.y ≤ p₂.y) :
    p₁.x ≤ box.right ∧ box.left ≤ p₂.x ∧ p₁.y ≤ box.bottom ∧ box.top ≤ p₂.y ∧
      0 ≤ orientation p₁ p₂ ⟨box.left, box.bottom⟩ ∧
        orientation p₁ p₂ ⟨box.right, box.top⟩ ≤ 0 := by
  obtain ⟨part, nonneg, le_one, in_region⟩ := Box.meets_iff.mp met
  rw [Box.mem_region_iff, between_fst, between_snd] at in_region
  obtain ⟨left, right, top, bottom⟩ := in_region
  have dx_nonneg : (0 : ℝ) ≤ p₂.x - p₁.x := by exact_mod_cast sub_nonneg.mpr rightward
  have dy_nonneg : (0 : ℝ) ≤ p₂.y - p₁.y := by exact_mod_cast sub_nonneg.mpr downward
  have far_x := mul_le_of_le_one_left dx_nonneg le_one
  have far_y := mul_le_of_le_one_left dy_nonneg le_one
  have near_x := mul_nonneg nonneg dx_nonneg
  have near_y := mul_nonneg nonneg dy_nonneg
  have lower_left : (0 : ℝ) ≤
      (p₂.x - p₁.x) * (box.bottom - p₁.y) - (p₂.y - p₁.y) * (box.left - p₁.x) := by
    linear_combination mul_le_mul_of_nonneg_left bottom dx_nonneg +
      mul_le_mul_of_nonneg_left left dy_nonneg
  have upper_right : (p₂.x - p₁.x) * (box.top - p₁.y) - (p₂.y - p₁.y) * (box.right - p₁.x) ≤
      (0 : ℝ) := by
    linear_combination mul_le_mul_of_nonneg_left top dx_nonneg +
      mul_le_mul_of_nonneg_left right dy_nonneg
  have within : (p₁.x : ℝ) ≤ box.right ∧ (box.left : ℝ) ≤ p₂.x ∧ (p₁.y : ℝ) ≤ box.bottom ∧
      (box.top : ℝ) ≤ p₂.y := ⟨by linarith, by linarith, by linarith, by linarith⟩
  obtain ⟨before_right, after_left, before_bottom, after_top⟩ := within
  exact ⟨by exact_mod_cast before_right, by exact_mod_cast after_left,
    by exact_mod_cast before_bottom, by exact_mod_cast after_top, by exact_mod_cast lower_left,
    by exact_mod_cast upper_right⟩

/-- A met box overlaps the segment. -/
theorem Box.Meets.overlaps {box : Box ℚ} {p₁ p₂ : Point ℚ} (met : box.Meets p₁ p₂)
    (rightward : p₁.x ≤ p₂.x) (downward : p₁.y ≤ p₂.y) : box.Overlaps p₁ p₂ := by
  obtain ⟨before_right, after_left, before_bottom, after_top, -, -⟩ :=
    met.passes rightward downward
  exact ⟨le_max_of_le_right after_left, min_le_of_left_le before_right,
    le_max_of_le_right after_top, min_le_of_left_le before_bottom⟩

/-- A segment that begins outside of a box it meets passes the upper left corner: above it over the
top, or beside it over the left side. -/
theorem Box.enters {box : Box ℚ} {p₁ p₂ : Point ℚ} (rightward : p₁.x ≤ p₂.x)
    (downward : p₁.y ≤ p₂.y) (before_right : p₁.x ≤ box.right) (before_bottom : p₁.y ≤ box.bottom)
    (start_outside : ¬box.holds p₁ = true) :
    p₁.y ≤ box.top ∧ 0 ≤ orientation p₁ p₂ ⟨box.left, box.top⟩ ∨
      p₁.x ≤ box.left ∧ orientation p₁ p₂ ⟨box.left, box.top⟩ ≤ 0 := by
  rw [Box.holds_iff] at start_outside
  have outside : 0 < box.left - p₁.x ∨ 0 < box.top - p₁.y := by
    by_contra inside
    rw [not_or, not_lt, not_lt] at inside
    exact start_outside
      ⟨sub_nonpos.mp inside.1, before_right, sub_nonpos.mp inside.2, before_bottom⟩
  exact (side_of_corner (sub_nonneg.mpr rightward) (sub_nonneg.mpr downward) outside).imp
    (.imp_left sub_nonneg.mp) (.imp_left sub_nonneg.mp)

/-- A segment that ends outside of a box it meets passes the lower right corner: below it through
the bottom, or beside it through the right side. -/
theorem Box.leaves {box : Box ℚ} {p₁ p₂ : Point ℚ} (rightward : p₁.x ≤ p₂.x)
    (downward : p₁.y ≤ p₂.y) (after_left : box.left ≤ p₂.x) (after_top : box.top ≤ p₂.y)
    (goal_outside : ¬box.holds p₂ = true) :
    box.bottom ≤ p₂.y ∧ orientation p₁ p₂ ⟨box.right, box.bottom⟩ ≤ 0 ∨
      box.right ≤ p₂.x ∧ 0 ≤ orientation p₁ p₂ ⟨box.right, box.bottom⟩ := by
  rw [Box.holds_iff] at goal_outside
  have outside : 0 < p₂.x - box.right ∨ 0 < p₂.y - box.bottom := by
    by_contra inside
    rw [not_or, not_lt, not_lt] at inside
    exact goal_outside
      ⟨after_left, sub_nonpos.mp inside.1, after_top, sub_nonpos.mp inside.2⟩
  have turn : orientation p₁ p₂ ⟨box.right, box.bottom⟩ =
      -((p₂.x - p₁.x) * (p₂.y - box.bottom) - (p₂.y - p₁.y) * (p₂.x - box.right)) := by
    simp only [orientation]
    ring
  rw [turn, neg_nonpos, neg_nonneg]
  exact (side_of_corner (sub_nonneg.mpr rightward) (sub_nonneg.mpr downward) outside).imp
    (.imp_left sub_nonneg.mp) (.imp_left sub_nonneg.mp)

/-- A segment that runs to the right and downwards and meets a box without ending inside crosses a
side that does not count as parallel to it. -/
theorem Box.Meets.crossedBy {box : Box ℚ} {p₁ p₂ : Point ℚ} (met : box.Meets p₁ p₂)
    (sizable : box.Sizable) (resolved : box.Resolves p₁ p₂) (rightward : p₁.x ≤ p₂.x)
    (downward : p₁.y ≤ p₂.y) (start_outside : ¬box.holds p₁ = true)
    (goal_outside : ¬box.holds p₂ = true) : box.CrossedBy p₁ p₂ := by
  obtain ⟨before_right, after_left, before_bottom, after_top, lower_left, upper_right⟩ :=
    met.passes rightward downward
  have enters := Box.enters rightward downward before_right before_bottom start_outside
  have leaves := Box.leaves rightward downward after_left after_top goal_outside
  have height_nonneg := sub_nonneg.mpr sizable.downright.le
  have width_nonneg := sub_nonneg.mpr sizable.upright.le
  have resolved : 1 / 10 ^ 10 ≤ (p₂.x - p₁.x) * (box.bottom - box.top) ∨
      1 / 10 ^ 10 ≤ (p₂.y - p₁.y) * (box.right - box.left) := by
    rw [Box.Resolves, abs_of_nonneg (sub_nonneg.mpr rightward),
      abs_of_nonneg (sub_nonneg.mpr downward)] at resolved
    exact le_max_iff.mp resolved
  have area := sizable.area
  rcases enters with ⟨above, turn⟩ | ⟨beside, turn⟩
  · by_cases flat : 1 / 10 ^ 10 ≤ (p₂.y - p₁.y) * (box.right - box.left)
    · exact .inr (.inr (.inl (segmentsIntersect_level flat above after_top turn upper_right)))
    · -- Only the upright sides count. Leaving through the bottom would take the full height.
      have steep := resolved.resolve_right flat
      rcases leaves with ⟨below, -⟩ | ⟨past, turn⟩
      · refine absurd (area.trans ?_) flat
        rw [mul_comm (p₂.y - p₁.y)]
        exact mul_le_mul_of_nonneg_left (by linarith) width_nonneg
      · exact .inr (.inl (segmentsIntersect_upright steep before_right past upper_right turn))
  · by_cases steep : 1 / 10 ^ 10 ≤ (p₂.x - p₁.x) * (box.bottom - box.top)
    · exact .inl (segmentsIntersect_upright steep beside after_left turn lower_left)
    · have flat := resolved.resolve_left steep
      rcases leaves with ⟨below, turn⟩ | ⟨past, -⟩
      · exact .inr (.inr (.inr (segmentsIntersect_level flat before_bottom below lower_left turn)))
      · refine absurd (area.trans ?_) steep
        exact mul_le_mul_of_nonneg_right (by linarith) height_nonneg

theorem Box.Meets.touches_of_rightward_downward {box : Box ℚ} {p₁ p₂ : Point ℚ}
    (met : box.Meets p₁ p₂) (sizable : box.Sizable) (resolved : box.Resolves p₁ p₂)
    (rightward : p₁.x ≤ p₂.x) (downward : p₁.y ≤ p₂.y) : box.touches p₁ p₂ = true := by
  refine Box.touches_iff.mpr ⟨met.overlaps rightward downward, ?_⟩
  by_cases start_inside : box.holds p₁ = true
  · exact .inl start_inside
  · by_cases goal_inside : box.holds p₂ = true
    · exact .inr (.inl goal_inside)
    · exact .inr (.inr
        (met.crossedBy sizable resolved rightward downward start_inside goal_inside))

omit [Lengths] in
theorem Box.Sizable.flip {box : Box ℚ} (sizable : box.Sizable) : box.flip.Sizable where
  upright := sizable.upright
  downright := neg_lt_neg sizable.downright
  area := by
    simpa only [Box.flip, neg_sub_neg] using sizable.area

omit [Lengths] in
theorem Box.resolves_flip {box : Box ℚ} {p₁ p₂ : Point ℚ} :
    box.flip.Resolves (Routing.flip p₁) (Routing.flip p₂) ↔ box.Resolves p₁ p₂ := by
  simp only [Box.Resolves, Box.flip, Routing.flip, neg_sub_neg, abs_sub_comm p₁.y]

omit [Lengths] in
theorem Box.resolves_swap {box : Box ℚ} {p₁ p₂ : Point ℚ} :
    box.Resolves p₂ p₁ ↔ box.Resolves p₁ p₂ := by
  simp only [Box.Resolves, abs_sub_comm p₁.x, abs_sub_comm p₁.y]

/-- A box that a segment meets is reported to be touched, unless all its sides count as parallel to
the segment. -/
theorem Box.Meets.touches {box : Box ℚ} {p₁ p₂ : Point ℚ} (met : box.Meets p₁ p₂)
    (sizable : box.Sizable) (resolved : box.Resolves p₁ p₂) : box.touches p₁ p₂ = true := by
  -- Swapping the ends makes the segment run to the right, turning the plane makes it run down.
  wlog rightward : p₁.x ≤ p₂.x generalizing p₁ p₂
  · rw [← Box.touches_swap]
    exact this (Box.meets_swap.mpr met) (Box.resolves_swap.mpr resolved) (le_of_not_ge rightward)
  wlog downward : p₁.y ≤ p₂.y generalizing box p₁ p₂
  · rw [← Box.touches_flip]
    exact this sizable.flip (Box.meets_flip.mpr met) (Box.resolves_flip.mpr resolved) rightward
      (neg_le_neg (le_of_not_ge downward))
  exact met.touches_of_rightward_downward sizable resolved rightward downward

/-- A box is reported to be touched exactly by the segments that share a point with it. -/
theorem Box.touches_iff_meets {box : Box ℚ} {p₁ p₂ : Point ℚ} (sizable : box.Sizable)
    (tested : p₁ = p₂ ∨ box.Resolves p₁ p₂) : box.touches p₁ p₂ = true ↔ box.Meets p₁ p₂ := by
  refine ⟨Box.meets_of_touches sizable.upright.le sizable.downright.le, fun met => ?_⟩
  rcases tested with rfl | resolved
  · have held : box.holds p₁ = true := by
      rw [Box.holds_iff_mem]
      rwa [Box.Meets, line, segment_same, Set.singleton_inter_nonempty] at met
    exact Box.touches_iff.mpr ⟨met.overlaps le_rfl le_rfl, .inl held⟩
  · exact met.touches sizable resolved

/-! ## Detours around icons -/

/-- The sides of the box of an icon. -/
theorem obstacle_extent (padding : ℚ) (node : Node ℚ) :
    (obstacle padding node).right - (obstacle padding node).left = 2 * (iconHalf + padding) ∧
      (obstacle padding node).bottom - (obstacle padding node).top = 2 * (iconHalf + padding) := by
  constructor
  · simp only [obstacle]
    ring
  · simp only [obstacle]
    ring

theorem sizable_obstacle {padding : ℚ} (wide : 1 / 20 ≤ (iconHalf : ℚ) + padding)
    (node : Node ℚ) : (obstacle padding node).toBox.Sizable := by
  obtain ⟨width, height⟩ := obstacle_extent padding node
  have positive : 0 < 2 * ((iconHalf : ℚ) + padding) := by linarith
  refine ⟨sub_pos.mp (width ▸ positive), sub_pos.mp (height ▸ positive), ?_⟩
  rw [width, height]
  have square := mul_le_mul wide wide (by norm_num) (by linarith)
  linarith

theorem resolves_obstacle {padding : ℚ} (wide : 1 / 20 ≤ (iconHalf : ℚ) + padding) (node : Node ℚ)
    {p₁ p₂ : Point ℚ} (far : isNear p₁ p₂ = false) :
    (obstacle padding node).toBox.Resolves p₁ p₂ := by
  obtain ⟨width, height⟩ := obstacle_extent padding node
  have extent : 1 / 10 ≤ 2 * ((iconHalf : ℚ) + padding) := by linarith
  rw [Box.Resolves, width, height, le_max_iff]
  refine (isNear_eq_false_iff.mp far).imp (fun long => ?_) fun long => ?_
  · have scaled := mul_le_mul long extent (by norm_num) (abs_nonneg _)
    linarith
  · have scaled := mul_le_mul long extent (by norm_num) (abs_nonneg _)
    linarith

/-- The shortest clear polyline shares no point with the box of any icon. -/
theorem disjoint_of_shortestClear? {candidates : List (List (Point ℚ))} {nodes : List (Node ℚ)}
    {padding : ℚ} {path : List (Point ℚ)} (wide : 1 / 20 ≤ (iconHalf : ℚ) + padding)
    (found : shortestClear? candidates (nodes.map (obstacle padding)) = some path) :
    ((∃ p, path = [p, p]) ∨ ∀ segment ∈ segments path, 1 / 10 ^ 9 ≤ |segment.2.x - segment.1.x| ∨
        1 / 10 ^ 9 ≤ |segment.2.y - segment.1.y|) ∧
      ∀ node ∈ nodes, ∀ segment ∈ segments path,
        Disjoint (line segment.1 segment.2) (obstacle padding node).toBox.region := by
  obtain ⟨clear, candidate, -, rfl⟩ := shortestClear?_spec found
  have legs := repeated_or_far_of_dedupe candidate
  refine ⟨legs.imp_right fun far segment segment_mem =>
    isNear_eq_false_iff.mp (far segment segment_mem), ?_⟩
  intro node node_mem segment segment_mem
  have missed := isClear_iff.mp clear _ (List.mem_map_of_mem node_mem) segment segment_mem
  have tested : segment.1 = segment.2 ∨
      (obstacle padding node).toBox.Resolves segment.1 segment.2 := by
    rcases legs with ⟨p, repeated⟩ | far
    · rw [repeated] at segment_mem
      obtain rfl : segment = (p, p) := List.mem_singleton.mp segment_mem
      exact .inl rfl
    · exact .inr (resolves_obstacle wide node (far segment segment_mem))
  rw [Set.disjoint_iff_inter_eq_empty, ← Set.not_nonempty_iff_eq_empty]
  intro met
  have touched := (Box.touches_iff_meets (sizable_obstacle wide node) tested).mpr met
  exact Bool.false_ne_true (missed.symm.trans touched)

/-- The test for contact is exact for every box whose area is not below the tolerance and every
segment that is a single point or not parallel to all sides of the box within the tolerance.
Therefore no polyline that is chosen as the shortest clear one shares a point with the box of an
icon. -/
theorem contact_exact :
    (∀ (box : Box ℚ) (p₁ p₂ : Point ℚ), box.Sizable → p₁ = p₂ ∨ box.Resolves p₁ p₂ →
      (box.touches p₁ p₂ = true ↔ (line p₁ p₂ ∩ box.region).Nonempty)) ∧
    ∀ (candidates : List (List (Point ℚ))) (nodes : List (Node ℚ)) (padding : ℚ)
      (path : List (Point ℚ)), 1 / 20 ≤ (iconHalf : ℚ) + padding →
      shortestClear? candidates (nodes.map (obstacle padding)) = some path →
        ((∃ p, path = [p, p]) ∨
          ∀ segment ∈ segments path, 1 / 10 ^ 9 ≤ |segment.2.x - segment.1.x| ∨
            1 / 10 ^ 9 ≤ |segment.2.y - segment.1.y|) ∧
        ∀ node ∈ nodes, ∀ segment ∈ segments path,
          Disjoint (line segment.1 segment.2) (obstacle padding node).toBox.region :=
  ⟨fun _ _ _ sizable tested => Box.touches_iff_meets sizable tested,
    fun _ _ _ _ wide found => disjoint_of_shortestClear? wide found⟩

end

/-- Lengths along the axes. -/
@[reducible] private def taxicabLengths : Lengths where
  hypot x y := |x| + |y|
  heading _ _ := (1, 0)

/-- A node at the origin. -/
private def origin : Node ℚ :=
  { id := "origin", label := "origin", name := none, x := 0, y := 0, cluster := none }

theorem contact_exact_square :
    let _ : Lengths := taxicabLengths
    (⟨0, 10, 0, 10⟩ : Box ℚ).touches ⟨-5, 5⟩ ⟨15, 5⟩ = true ∧
      Disjoint (line ⟨-60, 24⟩ ⟨60, 25⟩) (obstacle (routePadding : ℚ) origin).toBox.region := by
  let _ : Lengths := taxicabLengths
  have sizable : (⟨0, 10, 0, 10⟩ : Box ℚ).Sizable := ⟨by norm_num, by norm_num, by norm_num⟩
  have resolved : (⟨0, 10, 0, 10⟩ : Box ℚ).Resolves ⟨-5, 5⟩ ⟨15, 5⟩ :=
    le_max_of_le_left (by norm_num)
  have met : (⟨0, 10, 0, 10⟩ : Box ℚ).Meets ⟨-5, 5⟩ ⟨15, 5⟩ :=
    Box.meets_iff.mpr ⟨1 / 2, by norm_num, by norm_num,
      Box.mem_region_iff.mpr ⟨by norm_num, by norm_num, by norm_num, by norm_num⟩⟩
  have kept : dedupe [(⟨-60, 24⟩ : Point ℚ), ⟨60, 25⟩] = [⟨-60, 24⟩, ⟨60, 25⟩] := by decide +kernel
  have open_way : isClear [(⟨-60, 24⟩ : Point ℚ), ⟨60, 25⟩]
      ([origin].map (obstacle (routePadding : ℚ))) = true := by
    decide +kernel
  have found : shortestClear? [[⟨-60, 24⟩, ⟨60, 25⟩]]
      ([origin].map (obstacle (routePadding : ℚ))) = some [⟨-60, 24⟩, ⟨60, 25⟩] := by
    rw [List.map_singleton] at open_way ⊢
    simp only [shortestClear?, List.map_singleton, List.mergeSort_singleton, kept,
      List.find?_cons_of_pos, open_way, Option.map_some]
  have wide : 1 / 20 ≤ (iconHalf : ℚ) + (routePadding : ℚ) := by norm_num [iconHalf, routePadding]
  have node_mem : origin ∈ [origin] := List.mem_singleton_self origin
  have leg_mem : ((⟨-60, 24⟩, ⟨60, 25⟩) : Point ℚ × Point ℚ) ∈
      segments [⟨-60, 24⟩, ⟨60, 25⟩] := List.mem_singleton_self _
  obtain ⟨exact_box, clear⟩ := contact_exact
  exact ⟨(exact_box _ _ _ sizable (.inr resolved)).mpr met,
    (clear _ _ _ _ wide found).2 origin node_mem _ leg_mem⟩

end Routing
end ClusterDiagram
