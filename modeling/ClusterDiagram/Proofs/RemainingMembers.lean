import ClusterDiagram.Proofs.PlainOutlines

/-!
# The place that a member leaves

The region that a cluster takes without one of its members reaches less than a step beyond the
other members. It holds the place of the member that is left out exactly when others stand level
with it or beyond it on all four sides. A cluster of one member falls back to the region of an empty
cluster at the corner of its cell, which reaches the centre of small cells only.
-/

namespace ClusterDiagram
namespace Layout

open HeldNumbers Outline

/-! ## Small cells -/

theorem ceilSqrt_lt {count : ℕ} (many : 3 ≤ count) : ceilSqrt count < count := by
  have enough : count ≤ (count - 1) * (count - 1) :=
    calc count ≤ (count - 1) * 2 := by omega
      _ ≤ (count - 1) * (count - 1) := Nat.mul_le_mul_left _ (by omega)
  rw [ceilSqrt]
  cases found : (List.range (count + 1)).find? fun side => decide (count ≤ side * side) with
  | none =>
      have excluded := List.find?_range_eq_none.mp found (count - 1) (by omega)
      simp only [Bool.not_eq_true', decide_eq_false_iff_not] at excluded
      exact absurd enough excluded
  | some side =>
      obtain ⟨-, -, least⟩ := List.find?_range_eq_some.mp found
      rw [Option.getD_some]
      by_contra not_less
      have excluded := least (count - 1) (by omega)
      simp only [Bool.not_eq_true', decide_eq_false_iff_not] at excluded
      exact excluded enough

/-- Three members or more do not fit into one row. -/
theorem two_le_rows {count : ℕ} (many : 3 ≤ count) : 2 ≤ (packShape count).2 := by
  have side_lt := ceilSqrt_lt many
  have enough := le_packShape_mul count
  have columns_eq : (packShape count).1 = ceilSqrt count := by
    rw [packShape, if_neg (by omega)]
  by_contra few
  have one_row : (packShape count).1 * (packShape count).2 ≤ (packShape count).1 * 1 :=
    Nat.mul_le_mul_left _ (by omega)
  omega

/-- One or two members take the least height, and no others do. -/
theorem extents_le_iff (count : ℕ) :
    (extent Placement.emptyWidth 120 (packShape count).1 count 0 ≤ 240 ∧
      extent Placement.emptyHeight 80 (packShape count).2 count 0 ≤ 80) ↔
      count = 1 ∨ count = 2 := by
  constructor
  · rintro ⟨-, low⟩
    by_contra other
    have cases_left : count = 0 ∨ 3 ≤ count := by omega
    rcases cases_left with rfl | many
    · revert low
      decide
    · have rows := two_le_rows many
      rw [extent, if_neg (by omega), Merge.memberStep] at low
      have := (Nat.le_max_right 80 (((packShape count).2 - 1) * 120 + 36 + 36)).trans
        ((Nat.le_add_right _ _).trans low)
      omega
  · rintro (rfl | rfl) <;> decide

variable {α : Type}

theorem depth_eq_zero {clusters : List (Cluster α)} (ids : (clusters.map (·.id)).Nodup)
    (roots : ∀ cluster ∈ clusters, cluster.parent = none) (id : String) :
    ClusterTree.depth (ClusterTree.parents clusters) id = 0 := by
  have no_parent : ((ClusterTree.parents clusters).lookup id).join = none := by
    cases found : (ClusterTree.parents clusters).lookup id with
    | none => rfl
    | some parent =>
        have keys :
            ((clusters.map fun cluster => (cluster.id, cluster.parent)).map (·.1)).Nodup := by
          rwa [List.map_map]
        have entry_mem := Assoc.mem_of_lookup found
        rw [ClusterTree.parents, Assoc.ofEntries_of_nodup keys] at entry_mem
        obtain ⟨cluster, cluster_mem, entry_eq⟩ := List.mem_map.mp entry_mem
        cases entry_eq
        exact roots cluster cluster_mem
  rw [ClusterTree.depth, ClusterTree.ancestors, no_parent]
  rfl

theorem cellExtent_le_iff {clusters : List (Cluster α)} {extentOf : String → ℕ} (limit : ℕ) :
    cellExtent clusters extentOf ≤ limit + 120 ↔
      ∀ cluster ∈ clusters, extentOf cluster.id ≤ limit := by
  rw [cellExtent, Nat.add_le_add_iff_right]
  induction clusters with
  | nil => simp
  | cons cluster clusters induction => simp [induction]

/-- The cells of clusters side by side are small when no cluster has more than two members, and none
is empty. -/
theorem cellExtents_le_iff {clusters : List (Cluster α)} (ids : (clusters.map (·.id)).Nodup)
    (roots : ∀ cluster ∈ clusters, cluster.parent = none) (nodes : List (Node α)) :
    (cellExtent clusters (widthOf clusters nodes) ≤ 360 ∧
      cellExtent clusters (heightOf clusters nodes) ≤ 200) ↔
      ∀ cluster ∈ clusters, (membersOf nodes cluster.id).length = 1 ∨
        (membersOf nodes cluster.id).length = 2 := by
  rw [cellExtent_le_iff 240, cellExtent_le_iff 80, ← forall₂_and]
  apply forall₂_congr
  intro cluster _
  rw [widthOf, heightOf, depth_eq_zero ids roots]
  exact extents_le_iff _

/-- The region of an empty cluster reaches the centre of a small cell only. -/
theorem Cells.contains_centre_iff (cells : Cells) (id : String) :
    (emptyRegion (cells.left id) (cells.top id)).Contains (cells.spotX id 1 0)
        (cells.spotY id 1 0) ↔ cells.width ≤ 360 ∧ cells.height ≤ 200 := by
  have middle : slotShift 0 1 = 0 := by simp [slotShift]
  have width_nonneg : (0 : ℚ) ≤ cells.width := Nat.cast_nonneg _
  have height_nonneg : (0 : ℚ) ≤ cells.height := Nat.cast_nonneg _
  have shape_eq : packShape 1 = (1, 1) := rfl
  simp only [Cells.spotX, Cells.spotY, shape_eq, Nat.zero_mod, Nat.zero_div, middle, add_zero]
  rw [← Nat.cast_le (α := ℚ), ← Nat.cast_le (α := ℚ)]
  constructor
  · rintro ⟨-, -, right, bottom⟩
    simp only [emptyRegion, Placement.emptyWidth, Placement.emptyHeight] at right bottom
    push_cast at right bottom ⊢
    constructor <;> linarith
  · rintro ⟨wide, high⟩
    push_cast at wide high
    constructor <;> simp only [emptyRegion, Placement.emptyWidth, Placement.emptyHeight] <;>
      push_cast <;> linarith

/-! ## The other members -/

/-- Whether nodes stand level with a node or beyond it on all four sides. -/
structure Flanks [Scalar α] (others : List (Node α)) (node : Node α) : Prop where
  /-- On the left side. -/
  left : ∃ other ∈ others, other.x ≤ node.x
  /-- Above. -/
  above : ∃ other ∈ others, other.y ≤ node.y
  /-- On the right side. -/
  right : ∃ other ∈ others, node.x ≤ other.x
  /-- Below. -/
  below : ∃ other ∈ others, node.y ≤ other.y

/-- What lies beyond a place by less than a step does not lie beyond it at all. -/
theorem near_iff (start : ℚ) (slot other count : ℕ) {reach margin : ℕ}
    (near : reach + margin < Merge.memberStep) :
    start + slotShift slot count - reach ≤ start + slotShift other count + margin ↔
      start + slotShift slot count ≤ start + slotShift other count := by
  have reach_nonneg : (0 : ℚ) ≤ reach := Nat.cast_nonneg reach
  have margin_nonneg : (0 : ℚ) ≤ margin := Nat.cast_nonneg margin
  have near_cast := (Nat.cast_lt (α := ℚ)).mpr near
  rw [Nat.cast_add] at near_cast
  constructor
  · intro within
    by_contra beyond
    have apart : slot ≠ other := by
      rintro rfl
      exact beyond (le_refl _)
    have far := step_le_abs_sub apart count
    rw [abs_of_pos (by linarith)] at far
    linarith
  · intro level
    linarith

variable [Scalar α] [HeldNumbers α] {cells : Cells} {id : String} {size : ℕ}

/-- The region around some members of a cluster holds the slots that they flank. -/
theorem contains_plainRegion_iff {others : List (Node α)} (filled : others ≠ [])
    (at_slots : ∀ other ∈ others, ∃ slot, AtSlot cells id size slot other) {node : Node α}
    {slot : ℕ} (at_slot : AtSlot cells id size slot node) (empty : Region) :
    (plainRegion others empty).Contains (cells.spotX id size slot) (cells.spotY id size slot) ↔
      Flanks others node := by
  obtain ⟨x_held, y_held⟩ := at_slot
  obtain ⟨region, joined⟩ : ∃ region,
      Region.joinAll (others.map (squareOf · memberExtent)) = some region := by
    rw [← Option.ne_none_iff_exists', Ne, Region.joinAll_eq_none_iff, List.map_eq_nil_iff]
    exact filled
  have sides (bound : ℚ) := Region.sides_of_joinAll joined bound
  simp only [List.mem_map, exists_exists_and_eq_and] at sides
  -- a side is reached by one of the others, which is compared slot by slot
  have some_other {reached level : Node α → Prop} (agree : ∀ other slot',
      AtSlot cells id size slot' other → (reached other ↔ level other)) :
      (∃ other, other ∈ others ∧ reached other) ↔ ∃ other ∈ others, level other := by
    apply exists_congr
    intro other
    apply and_congr_right
    intro other_mem
    obtain ⟨slot', other_at⟩ := at_slots other other_mem
    exact agree other slot' other_at
  have left : (region.grow padding).left ≤ cells.spotX id size slot ↔
      ∃ other ∈ others, other.x ≤ node.x := by
    rw [Region.grow, sub_le_iff_le_add, (sides _).1]
    refine some_other fun other slot' other_at => ?_
    rw [squareOf, number_eq other_at.1, le_iff other_at.1 x_held]
    exact near_iff _ _ _ _ (by decide)
  have above : (region.grow padding).top ≤ cells.spotY id size slot ↔
      ∃ other ∈ others, other.y ≤ node.y := by
    rw [Region.grow, sub_le_iff_le_add, (sides _).2.1]
    refine some_other fun other slot' other_at => ?_
    rw [squareOf, number_eq other_at.2, le_iff other_at.2 y_held]
    exact near_iff _ _ _ _ (by decide)
  have right : cells.spotX id size slot ≤ (region.grow padding).right ↔
      ∃ other ∈ others, node.x ≤ other.x := by
    rw [Region.grow, ← sub_le_iff_le_add, (sides _).2.2.1]
    refine some_other fun other slot' other_at => ?_
    rw [squareOf, number_eq other_at.1, le_iff x_held other_at.1]
    exact near_iff _ _ _ _ (by decide)
  have below : cells.spotY id size slot ≤ (region.grow padding).bottom ↔
      ∃ other ∈ others, node.y ≤ other.y := by
    rw [Region.grow, ← sub_le_iff_le_add, (sides _).2.2.2]
    refine some_other fun other slot' other_at => ?_
    rw [squareOf, number_eq other_at.2, le_iff y_held other_at.2]
    exact near_iff _ _ _ _ (by decide)
  rw [plainRegion, joined, Option.map_some, Option.getD_some]
  constructor
  · rintro ⟨inLeft, inTop, inRight, inBottom⟩
    exact ⟨left.mp inLeft, above.mp inTop, right.mp inRight, below.mp inBottom⟩
  · rintro ⟨onLeft, onTop, onRight, onBottom⟩
    exact ⟨left.mpr onLeft, above.mpr onTop, right.mpr onRight, below.mpr onBottom⟩

end Layout
end ClusterDiagram
