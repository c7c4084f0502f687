import ClusterDiagram.Proofs.ExactScalars
import ClusterDiagram.Routing.Decoration

/-!
# Labels stand beside the middle of a line

The way along a polyline is walked segment by segment until half its length is reached. Before every
segment the length walked is below the half, and what is left suffices to reach it; both stay true
over a segment that is passed, repeated points included. So the walk stops in a segment, and never
behind the last one. This holds of scalars without rounding, as long as the segments have the lengths
that they have in the plane.
-/

namespace ClusterDiagram

/-- Scalars without rounding: each stands for a real number, and their arithmetic is that of the
numbers. -/
class ExactScalar (α : Type) [Scalar α] where
  /-- The number that a scalar stands for. -/
  value : α → ℝ
  natCast (n : ℕ) : value (n : α) = n
  add (a b : α) : value (a + b) = value a + value b
  sub (a b : α) : value (a - b) = value a - value b
  mul (a b : α) : value (a * b) = value a * value b
  div (a b : α) : value (a / b) = value a / value b
  le_iff (a b : α) : a ≤ b ↔ value a ≤ value b
  beq_iff (a b : α) : (a == b) = true ↔ value a = value b

instance [Lengths] : ExactScalar ℚ where
  value := Rat.cast
  natCast := Rat.cast_natCast
  add := Rat.cast_add
  sub := Rat.cast_sub
  mul := Rat.cast_mul
  div := Rat.cast_div
  le_iff _ _ := Rat.cast_le.symm
  beq_iff _ _ := beq_iff_eq.trans Rat.cast_inj.symm

namespace Routing

open ExactScalar

variable {α : Type} [Scalar α] [ExactScalar α]

/-! ## Lengths in the plane -/

/-- How far a segment leads to the right. -/
def across (segment : Point α × Point α) : ℝ :=
  value segment.2.x - value segment.1.x

/-- How far a segment leads down. -/
def down (segment : Point α × Point α) : ℝ :=
  value segment.2.y - value segment.1.y

/-- The length of a segment in the plane. -/
noncomputable def planeLength (segment : Point α × Point α) : ℝ :=
  √(across segment ^ 2 + down segment ^ 2)

/-- The length of a way in the plane. -/
noncomputable def wayLength (way : List (Point α × Point α)) : ℝ :=
  (way.map planeLength).sum

/-- Whether the segments of a way have the lengths that they have in the plane. -/
def HasPlaneLengths (way : List (Point α × Point α)) : Prop :=
  ∀ segment ∈ way, value (distance segment.1 segment.2) = planeLength segment

theorem planeLength_nonneg (segment : Point α × Point α) : 0 ≤ planeLength segment :=
  Real.sqrt_nonneg _

@[simp]
theorem wayLength_cons (segment : Point α × Point α) (way : List (Point α × Point α)) :
    wayLength (segment :: way) = planeLength segment + wayLength way := by
  rw [wayLength, List.map_cons, List.sum_cons, wayLength]

/-- The direction of a segment that is not a point has length one. -/
theorem direction_unit {segment : Point α × Point α} (long : 0 < planeLength segment) :
    (across segment / planeLength segment) ^ 2 + (down segment / planeLength segment) ^ 2 = 1 := by
  have square : planeLength segment ^ 2 = across segment ^ 2 + down segment ^ 2 :=
    Real.sq_sqrt (by positivity)
  rw [div_pow, div_pow, ← add_div, ← square, div_self (pow_pos long 2).ne']

/-- Lengths along the axes are those of upright and level segments in the plane. -/
theorem hasPlaneLengths_alongAxes {way : List (Point ℚ × Point ℚ)}
    (aligned : ∀ segment ∈ way, segment.1.x = segment.2.x ∨ segment.1.y = segment.2.y) :
    let _ : Lengths := Lengths.alongAxes
    HasPlaneLengths way := by
  intro _ segment segment_mem
  have length_eq :
      value (distance segment.1 segment.2) = |across segment| + |down segment| := by
    change ((|segment.2.x - segment.1.x| + |segment.2.y - segment.1.y| : ℚ) : ℝ) = _
    push_cast
    rfl
  rw [length_eq, planeLength]
  rcases aligned segment segment_mem with upright | level
  · have across_eq : across segment = 0 := by rw [across, upright, sub_self]
    rw [across_eq, abs_zero, zero_add, zero_pow two_ne_zero, zero_add, Real.sqrt_sq_eq_abs]
  · have down_eq : down segment = 0 := by rw [down, level, sub_self]
    rw [down_eq, abs_zero, add_zero, zero_pow two_ne_zero, add_zero, Real.sqrt_sq_eq_abs]

/-! ## The walk -/

theorem isZero_iff (a : α) : Scalar.isZero a = true ↔ value a = 0 := by
  rw [Scalar.isZero, beq_iff, natCast, Nat.cast_zero]

theorem value_foldl (terms : List α) (start : α) :
    value (terms.foldl (· + ·) start) = value start + (terms.map value).sum := by
  induction terms generalizing start with
  | nil => simp
  | cons term terms induction =>
      rw [List.foldl_cons, induction, add, List.map_cons, List.sum_cons, add_assoc]

theorem value_pathLength {path : List (Point α)} (lengths : HasPlaneLengths (segments path)) :
    value (pathLength path) = wayLength (segments path) := by
  rw [pathLength, Scalar.sum, value_foldl, natCast, Nat.cast_zero, zero_add, List.map_map, wayLength]
  exact congrArg List.sum (List.map_congr_left lengths)

/-- Whether the way up to a part of one of its segments, which is not a point, has a given length. -/
structure Reaches (way : List (Point α × Point α)) (length : ℝ) (segment : Point α × Point α)
    (part : ℝ) : Prop where
  /-- The way before the segment and the part of it have the length together. -/
  split : ∃ front back, way = front ++ segment :: back ∧
    wayLength front + part * planeLength segment = length
  /-- The segment is not a point. -/
  long : 0 < planeLength segment
  /-- The part does not begin before the segment. -/
  nonneg : 0 ≤ part
  /-- The part does not end behind the segment. -/
  le_one : part ≤ 1

theorem reaches_first {segment : Point α × Point α} (way : List (Point α × Point α)) {length : ℝ}
    (long : 0 < planeLength segment) (nonneg : 0 ≤ length) (le : length ≤ planeLength segment) :
    Reaches (segment :: way) length segment (length / planeLength segment) where
  split := ⟨[], way, rfl, by
    rw [wayLength, List.map_nil, List.sum_nil, zero_add, div_mul_cancel₀ _ long.ne']⟩
  long := long
  nonneg := div_nonneg nonneg long.le
  le_one := (div_le_one long).mpr le

theorem Reaches.cons {way : List (Point α × Point α)} {length : ℝ} {segment : Point α × Point α}
    {part : ℝ} (reaches : Reaches way length segment part) (first : Point α × Point α) :
    Reaches (first :: way) (planeLength first + length) segment part := by
  obtain ⟨⟨front, back, rfl, length_eq⟩, long, nonneg, le_one⟩ := reaches
  refine ⟨⟨first :: front, back, rfl, ?_⟩, long, nonneg, le_one⟩
  rw [wayLength_cons, add_assoc, length_eq]

/-- Whether a point lies beside the end of a part of a segment, at an offset to the left of the
direction of travel as one sees it on a screen. -/
structure Beside (offset : ℝ) (segment : Point α × Point α) (part : ℝ) (point : Point α) :
    Prop where
  /-- How far right the point lies. -/
  x : value point.x = value segment.1.x + part * across segment +
    offset * (down segment / planeLength segment)
  /-- How far down the point lies. -/
  y : value point.y = value segment.1.y + part * down segment -
    offset * (across segment / planeLength segment)

theorem beside_besideSegment {offset length along : α} {p₁ p₂ : Point α}
    (length_eq : value length = planeLength (p₁, p₂)) :
    Beside (value offset) (p₁, p₂) (value along / planeLength (p₁, p₂))
      (besideSegment offset length along p₁ p₂) := by
  constructor <;>
    simp only [besideSegment, add, sub, mul, div, length_eq, across, down] <;> ring

/-- A walk that is short of its goal and has enough left to reach it stops in a segment. -/
theorem exists_besideFrom (offset : α) {half walked : α} {way : List (Point α × Point α)}
    (lengths : HasPlaneLengths way) (short : value walked < value half)
    (enough : value half ≤ value walked + wayLength way) :
    ∃ segment part label, besideFrom offset half walked way = some label ∧
      Reaches way (value half - value walked) segment part ∧
      Beside (value offset) segment part label := by
  induction way generalizing walked with
  | nil =>
      -- Nothing is left, and the walk is still short.
      rw [wayLength, List.map_nil, List.sum_nil, add_zero] at enough
      exact absurd short (not_lt.mpr enough)
  | cons first way induction =>
      obtain ⟨p₁, p₂⟩ := first
      rw [HasPlaneLengths, List.forall_mem_cons] at lengths
      obtain ⟨length_eq, lengths⟩ := lengths
      have walked_eq : value (walked + distance p₁ p₂) = value walked + planeLength (p₁, p₂) := by
        rw [add, length_eq]
      rw [wayLength_cons, ← add_assoc] at enough
      rw [besideFrom]
      split
      · rename_i flat
        rw [isZero_iff, length_eq] at flat
        rw [flat, add_zero] at enough
        obtain ⟨segment, part, label, found, reaches, beside⟩ := induction lengths short enough
        have reaches := reaches.cons (p₁, p₂)
        rw [flat, zero_add] at reaches
        exact ⟨segment, part, label, found, reaches, beside⟩
      · rename_i not_flat
        rw [isZero_iff, length_eq] at not_flat
        have long : 0 < planeLength (p₁, p₂) := (planeLength_nonneg _).lt_of_ne' not_flat
        split
        · rename_i here
          rw [le_iff, walked_eq] at here
          refine ⟨(p₁, p₂), _, _, rfl, ?_, beside_besideSegment length_eq⟩
          rw [sub]
          exact reaches_first way long (sub_nonneg.mpr short.le) (sub_le_iff_le_add'.mpr here)
        · rename_i beyond
          rw [le_iff, not_le] at beyond
          rw [← walked_eq] at enough
          obtain ⟨segment, part, label, found, reaches, beside⟩ := induction lengths beyond enough
          have reaches := reaches.cons (p₁, p₂)
          have left_eq : planeLength (p₁, p₂) + (value half - value (walked + distance p₁ p₂)) =
              value half - value walked := by
            rw [walked_eq]
            ring
          rw [left_eq] at reaches
          exact ⟨segment, part, label, found, reaches, beside⟩

/-- The label of a polyline that is not a point stands at its offset from the point at half the
length, to the left of the segment there. It is always the walk that finds it. -/
theorem labelPoint_halfway {path : List (Point α)} (lengths : HasPlaneLengths (segments path))
    (long : 0 < wayLength (segments path)) (offset : α) :
    besideFrom offset (pathLength path / ((2 : ℕ) : α)) ((0 : ℕ) : α) (segments path) =
        some (labelPoint offset path) ∧
      ∃ segment part, Reaches (segments path) (wayLength (segments path) / 2) segment part ∧
        (across segment / planeLength segment) ^ 2 +
          (down segment / planeLength segment) ^ 2 = 1 ∧
        Beside (value offset) segment part (labelPoint offset path) := by
  have total_eq := value_pathLength lengths
  have half_eq : value (pathLength path / ((2 : ℕ) : α)) = wayLength (segments path) / 2 := by
    rw [div, total_eq, natCast, Nat.cast_ofNat]
  have start_eq : value ((0 : ℕ) : α) = 0 := by rw [natCast, Nat.cast_zero]
  have short : value ((0 : ℕ) : α) < value (pathLength path / ((2 : ℕ) : α)) := by
    rw [start_eq, half_eq]
    exact half_pos long
  have enough : value (pathLength path / ((2 : ℕ) : α)) ≤
      value ((0 : ℕ) : α) + wayLength (segments path) := by
    rw [start_eq, half_eq, zero_add]
    exact half_le_self long.le
  obtain ⟨segment, part, label, found, reaches, beside⟩ :=
    exists_besideFrom offset lengths short enough
  rw [half_eq, start_eq, sub_zero] at reaches
  have label_eq : labelPoint offset path = label := by
    match path with
    -- Without two points there is no length.
    | [] | [_] => simp [segments, wayLength] at long
    | p :: next :: rest =>
        have not_flat : ¬ Scalar.isZero (pathLength (p :: next :: rest)) = true := by
          rw [isZero_iff, total_eq]
          exact long.ne'
        simp only [labelPoint]
        rw [if_neg not_flat, found, Option.getD_some]
  rw [label_eq]
  exact ⟨found, segment, part, reaches, direction_unit reaches.long, beside⟩

/-- A polyline with repeated points that has its middle at a bend. -/
private def bent : List (Point ℚ) :=
  [⟨0, 0⟩, ⟨0, 0⟩, ⟨10, 0⟩, ⟨10, 0⟩, ⟨10, 10⟩]

theorem labelPoint_halfway_bent :
    let _ : Lengths := Lengths.alongAxes
    HasPlaneLengths (segments bent) ∧ 0 < wayLength (segments bent) ∧
      labelPoint 18 bent = ⟨10, -18⟩ ∧
      ∃ segment part, Reaches (segments bent) (wayLength (segments bent) / 2) segment part ∧
        Beside (value (18 : ℚ)) segment part (labelPoint 18 bent) := by
  let _ : Lengths := Lengths.alongAxes
  have lengths : HasPlaneLengths (segments bent) := hasPlaneLengths_alongAxes (by decide +kernel)
  have long : 0 < wayLength (segments bent) := by
    have total : pathLength bent = 20 := by decide +kernel
    rw [← value_pathLength lengths, total]
    exact Rat.cast_pos.mpr (by norm_num)
  obtain ⟨-, segment, part, reaches, -, beside⟩ := labelPoint_halfway lengths long 18
  exact ⟨lengths, long, by decide +kernel, segment, part, reaches, beside⟩

end Routing
end ClusterDiagram
