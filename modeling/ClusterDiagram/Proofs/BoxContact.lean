import ClusterDiagram.Proofs.HonestRoutes

/-!
# Segments that touch boxes

Over exact numbers two segments are reported to intersect only where they share a point, so that a
segment is reported to touch a box only if both share a point of the plane.
-/

namespace ClusterDiagram

namespace Scalar

variable [Lengths]

theorem max_rational (a b : ℚ) : Scalar.max a b = Max.max a b := by
  rw [Scalar.max]
  split
  · rename_i less
    exact (max_eq_right (le_of_lt less)).symm
  · rename_i not_less
    exact (max_eq_left (le_of_not_gt not_less)).symm

theorem min_rational (a b : ℚ) : Scalar.min a b = Min.min a b := by
  rw [Scalar.min]
  split
  · rename_i less
    exact (min_eq_right (le_of_lt less)).symm
  · rename_i not_less
    exact (min_eq_left (le_of_not_gt not_less)).symm

theorem abs_rational (a : ℚ) : Scalar.abs a = |a| := by
  rw [Scalar.abs]
  split
  · rename_i negative
    exact (abs_of_neg negative).symm
  · rename_i not_negative
    exact (abs_of_nonneg (le_of_not_gt not_negative)).symm

end Scalar

namespace Routing

/-! ## Regions of the plane -/

/-- The place of a point in the plane. -/
def place (p : Point ℚ) : ℝ × ℝ :=
  (p.x, p.y)

/-- The points between two points, both included. -/
def line (p₁ p₂ : Point ℚ) : Set (ℝ × ℝ) :=
  segment ℝ (place p₁) (place p₂)

/-- The points of a box, its border included. -/
def Box.region (box : Box ℚ) : Set (ℝ × ℝ) :=
  Set.Icc (box.left : ℝ) box.right ×ˢ Set.Icc (box.top : ℝ) box.bottom

/-- The point that lies at a part of the way between two points. -/
def between (p₁ p₂ : Point ℚ) (part : ℝ) : ℝ × ℝ :=
  (p₁.x + part * (p₂.x - p₁.x), p₁.y + part * (p₂.y - p₁.y))

@[simp] theorem between_fst (p₁ p₂ : Point ℚ) (part : ℝ) :
    (between p₁ p₂ part).1 = p₁.x + part * (p₂.x - p₁.x) :=
  rfl

@[simp] theorem between_snd (p₁ p₂ : Point ℚ) (part : ℝ) :
    (between p₁ p₂ part).2 = p₁.y + part * (p₂.y - p₁.y) :=
  rfl

theorem mem_line_iff {p₁ p₂ : Point ℚ} {q : ℝ × ℝ} :
    q ∈ line p₁ p₂ ↔ ∃ part, 0 ≤ part ∧ part ≤ 1 ∧ between p₁ p₂ part = q := by
  simp only [line, segment_eq_image', Set.mem_image, Set.mem_Icc, and_assoc]
  rfl

theorem Box.mem_region_iff {box : Box ℚ} {q : ℝ × ℝ} :
    q ∈ box.region ↔ box.left ≤ q.1 ∧ q.1 ≤ box.right ∧ box.top ≤ q.2 ∧ q.2 ≤ box.bottom := by
  simp only [Box.region, Set.mem_prod, Set.mem_Icc, and_assoc]

theorem Box.line_subset_region {box : Box ℚ} {p₁ p₂ : Point ℚ} (first : place p₁ ∈ box.region)
    (second : place p₂ ∈ box.region) : line p₁ p₂ ⊆ box.region :=
  ((convex_Icc _ _).prod (convex_Icc _ _)).segment_subset first second

/-- Whether a box and a segment share a point. -/
def Box.Meets (box : Box ℚ) (p₁ p₂ : Point ℚ) : Prop :=
  (line p₁ p₂ ∩ box.region).Nonempty

theorem Box.meets_iff {box : Box ℚ} {p₁ p₂ : Point ℚ} :
    box.Meets p₁ p₂ ↔ ∃ part, 0 ≤ part ∧ part ≤ 1 ∧ between p₁ p₂ part ∈ box.region := by
  constructor
  · rintro ⟨q, on_line, in_region⟩
    obtain ⟨part, nonneg, le_one, rfl⟩ := mem_line_iff.mp on_line
    exact ⟨part, nonneg, le_one, in_region⟩
  · rintro ⟨part, nonneg, le_one, in_region⟩
    exact ⟨_, mem_line_iff.mpr ⟨part, nonneg, le_one, rfl⟩, in_region⟩

variable [Lengths]

/-! ## Crossing segments -/

theorem tolerance_rational (places : ℕ) : (tolerance places : ℚ) = 1 / 10 ^ places := by
  have power : ((Nat.pow 10 places : ℕ) : ℚ) = 10 ^ places := Nat.cast_pow 10 places
  have one : ((1 : ℕ) : ℚ) = 1 := Nat.cast_one
  exact congrArg₂ (· / ·) one power

theorem isNear_iff {p₁ p₂ : Point ℚ} :
    isNear p₁ p₂ = true ↔ |p₁.x - p₂.x| < 1 / 10 ^ 9 ∧ |p₁.y - p₂.y| < 1 / 10 ^ 9 := by
  rw [isNear, Scalar.abs_rational, Scalar.abs_rational, tolerance_rational, Bool.and_eq_true,
    decide_eq_true_eq, decide_eq_true_eq]

theorem isNear_eq_false_iff {p₁ p₂ : Point ℚ} : isNear p₁ p₂ = false ↔
    1 / 10 ^ 9 ≤ |p₂.x - p₁.x| ∨ 1 / 10 ^ 9 ≤ |p₂.y - p₁.y| := by
  rw [← Bool.not_eq_true, isNear_iff, not_and_or, not_lt, not_lt, abs_sub_comm p₁.x,
    abs_sub_comm p₁.y]

/-- How far two segments are from being parallel. -/
def skew (p₁ p₂ p₃ p₄ : Point ℚ) : ℚ :=
  (p₂.x - p₁.x) * (p₄.y - p₃.y) - (p₂.y - p₁.y) * (p₄.x - p₃.x)

theorem segmentsIntersect_iff {p₁ p₂ p₃ p₄ : Point ℚ} :
    segmentsIntersect p₁ p₂ p₃ p₄ = true ↔ 1 / 10 ^ 10 ≤ |skew p₁ p₂ p₃ p₄| ∧
      orientation p₁ p₂ p₃ * orientation p₁ p₂ p₄ ≤ 0 ∧
        orientation p₃ p₄ p₁ * orientation p₃ p₄ p₂ ≤ 0 := by
  have zero : ((0 : ℕ) : ℚ) = 0 := Nat.cast_zero
  simp only [segmentsIntersect, Scalar.abs_rational, tolerance_rational]
  split
  · rename_i parallel
    exact iff_of_false Bool.false_ne_true fun crossed => not_le_of_gt parallel crossed.1
  · rename_i apart
    rw [Bool.and_eq_true, decide_eq_true_eq, decide_eq_true_eq, zero]
    exact (and_iff_right (not_lt.mp apart)).symm

omit [Lengths] in
/-- Between numbers that do not have the same sign, zero lies at a part of the way. -/
theorem part_of_mul_nonpos {a b : ℚ} (apart : a - b ≠ 0) (opposite : a * b ≤ 0) :
    0 ≤ a / (a - b) ∧ a / (a - b) ≤ 1 := by
  rcases mul_nonpos_iff.mp opposite with ⟨a_nonneg, b_nonpos⟩ | ⟨a_nonpos, b_nonneg⟩
  · have positive : 0 < a - b := lt_of_le_of_ne (by linarith) apart.symm
    exact ⟨div_nonneg a_nonneg positive.le, (div_le_one positive).mpr (by linarith)⟩
  · have negative : a - b < 0 := lt_of_le_of_ne (by linarith) apart
    exact ⟨div_nonneg_of_nonpos a_nonpos negative.le,
      (div_le_one_of_neg negative).mpr (by linarith)⟩

/-- Segments that are reported to intersect share a point. -/
theorem nonempty_of_segmentsIntersect {p₁ p₂ p₃ p₄ : Point ℚ}
    (crossed : segmentsIntersect p₁ p₂ p₃ p₄ = true) : (line p₁ p₂ ∩ line p₃ p₄).Nonempty := by
  obtain ⟨apart, straddled, straddles⟩ := segmentsIntersect_iff.mp crossed
  have skew_ne : skew p₁ p₂ p₃ p₄ ≠ 0 := by
    intro parallel
    norm_num [parallel] at apart
  have first_eq : orientation p₁ p₂ p₃ - orientation p₁ p₂ p₄ = -skew p₁ p₂ p₃ p₄ := by
    simp only [orientation, skew]
    ring
  have second_eq : orientation p₃ p₄ p₁ - orientation p₃ p₄ p₂ = skew p₁ p₂ p₃ p₄ := by
    simp only [orientation, skew]
    ring
  obtain ⟨first_nonneg, first_le⟩ :=
    part_of_mul_nonpos (first_eq.trans_ne (neg_ne_zero.mpr skew_ne)) straddled
  obtain ⟨second_nonneg, second_le⟩ := part_of_mul_nonpos (second_eq.trans_ne skew_ne) straddles
  rw [first_eq] at first_nonneg first_le
  rw [second_eq] at second_nonneg second_le
  have x_eq : p₁.x + orientation p₃ p₄ p₁ / skew p₁ p₂ p₃ p₄ * (p₂.x - p₁.x) =
      p₃.x + orientation p₁ p₂ p₃ / -skew p₁ p₂ p₃ p₄ * (p₄.x - p₃.x) := by
    field_simp
    simp only [orientation, skew]
    ring
  have y_eq : p₁.y + orientation p₃ p₄ p₁ / skew p₁ p₂ p₃ p₄ * (p₂.y - p₁.y) =
      p₃.y + orientation p₁ p₂ p₃ / -skew p₁ p₂ p₃ p₄ * (p₄.y - p₃.y) := by
    field_simp
    simp only [orientation, skew]
    ring
  refine ⟨between p₁ p₂ ((orientation p₃ p₄ p₁ / skew p₁ p₂ p₃ p₄ : ℚ) : ℝ),
    mem_line_iff.mpr ⟨_, by exact_mod_cast second_nonneg, by exact_mod_cast second_le, rfl⟩,
    mem_line_iff.mpr ⟨((orientation p₁ p₂ p₃ / -skew p₁ p₂ p₃ p₄ : ℚ) : ℝ),
      by exact_mod_cast first_nonneg, by exact_mod_cast first_le, ?_⟩⟩
  apply Prod.ext
  · rw [between_fst, between_fst]
    exact_mod_cast x_eq.symm
  · rw [between_snd, between_snd]
    exact_mod_cast y_eq.symm

/-! ## Touched boxes -/

theorem Box.holds_iff {box : Box ℚ} {p : Point ℚ} : box.holds p = true ↔
    box.left ≤ p.x ∧ p.x ≤ box.right ∧ box.top ≤ p.y ∧ p.y ≤ box.bottom := by
  simp only [Box.holds, Bool.and_eq_true, decide_eq_true_eq, and_assoc]

theorem Box.holds_iff_mem {box : Box ℚ} {p : Point ℚ} :
    box.holds p = true ↔ place p ∈ box.region := by
  rw [Box.holds_iff, Box.mem_region_iff]
  simp only [place, Rat.cast_le]

/-- Whether a segment is reported to cross a side of a box. -/
def Box.CrossedBy (box : Box ℚ) (p₁ p₂ : Point ℚ) : Prop :=
  segmentsIntersect p₁ p₂ ⟨box.left, box.top⟩ ⟨box.left, box.bottom⟩ = true ∨
    segmentsIntersect p₁ p₂ ⟨box.right, box.top⟩ ⟨box.right, box.bottom⟩ = true ∨
      segmentsIntersect p₁ p₂ ⟨box.left, box.top⟩ ⟨box.right, box.top⟩ = true ∨
        segmentsIntersect p₁ p₂ ⟨box.left, box.bottom⟩ ⟨box.right, box.bottom⟩ = true

/-- Whether the ranges of the coordinates of a segment and of a box overlap. -/
def Box.Overlaps (box : Box ℚ) (p₁ p₂ : Point ℚ) : Prop :=
  box.left ≤ max p₁.x p₂.x ∧ min p₁.x p₂.x ≤ box.right ∧
    box.top ≤ max p₁.y p₂.y ∧ min p₁.y p₂.y ≤ box.bottom

theorem Box.touches_iff {box : Box ℚ} {p₁ p₂ : Point ℚ} :
    box.touches p₁ p₂ = true ↔ box.Overlaps p₁ p₂ ∧
      (box.holds p₁ = true ∨ box.holds p₂ = true ∨ box.CrossedBy p₁ p₂) := by
  rw [Box.touches, Scalar.max_rational, Scalar.min_rational, Scalar.max_rational,
    Scalar.min_rational, Box.Overlaps]
  split_ifs with left right top bottom held
  · exact iff_of_false not_false fun touched => not_le_of_gt left touched.1.1
  · exact iff_of_false not_false fun touched => not_le_of_gt right touched.1.2.1
  · exact iff_of_false not_false fun touched => not_le_of_gt top touched.1.2.2.1
  · exact iff_of_false not_false fun touched => not_le_of_gt bottom touched.1.2.2.2
  · rw [Bool.or_eq_true] at held
    exact iff_of_true rfl ⟨⟨not_lt.mp left, not_lt.mp right, not_lt.mp top, not_lt.mp bottom⟩,
      or_assoc.mp (.inl held)⟩
  · rw [Bool.or_eq_true] at held
    have crossed_iff : (box.holds p₁ = true ∨ box.holds p₂ = true ∨ box.CrossedBy p₁ p₂) ↔
        box.CrossedBy p₁ p₂ := or_assoc.symm.trans (or_iff_right held)
    rw [crossed_iff, and_iff_right
      ⟨not_lt.mp left, not_lt.mp right, not_lt.mp top, not_lt.mp bottom⟩]
    simp only [Box.CrossedBy, Bool.or_eq_true, or_assoc]

/-- A box that is reported to be touched shares a point with the segment. -/
theorem Box.meets_of_touches {box : Box ℚ} {p₁ p₂ : Point ℚ} (upright : box.left ≤ box.right)
    (downright : box.top ≤ box.bottom) (touched : box.touches p₁ p₂ = true) : box.Meets p₁ p₂ := by
  have of_side : ∀ {p₃ p₄ : Point ℚ}, box.holds p₃ = true → box.holds p₄ = true →
      segmentsIntersect p₁ p₂ p₃ p₄ = true → box.Meets p₁ p₂ := fun first second crossed =>
    (nonempty_of_segmentsIntersect crossed).mono (Set.inter_subset_inter_right _
      (Box.line_subset_region (Box.holds_iff_mem.mp first) (Box.holds_iff_mem.mp second)))
  have topLeft : box.holds ⟨box.left, box.top⟩ = true :=
    Box.holds_iff.mpr ⟨le_rfl, upright, le_rfl, downright⟩
  have topRight : box.holds ⟨box.right, box.top⟩ = true :=
    Box.holds_iff.mpr ⟨upright, le_rfl, le_rfl, downright⟩
  have bottomLeft : box.holds ⟨box.left, box.bottom⟩ = true :=
    Box.holds_iff.mpr ⟨le_rfl, upright, downright, le_rfl⟩
  have bottomRight : box.holds ⟨box.right, box.bottom⟩ = true :=
    Box.holds_iff.mpr ⟨upright, le_rfl, downright, le_rfl⟩
  obtain ⟨-, first | second | left | right | top | bottom⟩ := Box.touches_iff.mp touched
  · exact ⟨_, left_mem_segment ℝ _ _, Box.holds_iff_mem.mp first⟩
  · exact ⟨_, right_mem_segment ℝ _ _, Box.holds_iff_mem.mp second⟩
  · exact of_side topLeft bottomLeft left
  · exact of_side topRight bottomRight right
  · exact of_side topLeft topRight top
  · exact of_side bottomLeft bottomRight bottom

end Routing
end ClusterDiagram
