import ClusterDiagram.Layout
import ClusterDiagram.Proofs.AssocLookup
import ClusterDiagram.Proofs.Doubles
import ClusterDiagram.Proofs.FiniteCanvas

/-!
# Layout on finite canvases

With doubles a grid can be drawn on every canvas of finite size, unless there are so many clusters
or members that their extents leave the range of doubles.
-/

namespace ClusterDiagram

namespace ClusterTree

theorem length_climb_le (parents : List (String × Option String)) (fuel : Nat) (seen : List String)
    (current : Option String) : (climb parents fuel seen current).length ≤ fuel := by
  induction fuel generalizing seen current with
  | zero => simp [climb]
  | succ fuel induction =>
      cases current with
      | none => simp [climb]
      | some id =>
          simp only [climb]
          split
          · simp
          · split
            · simp
            · exact Nat.succ_le_succ (induction _ _)

/-- A cluster has no more ancestors than there are clusters. -/
theorem depth_le {α : Type} (clusters : List (Cluster α)) (id : String) :
    depth (parents clusters) id ≤ clusters.length + 1 := by
  have known : (parents clusters).length ≤ clusters.length := by
    have entries := Assoc.length_ofEntries_le
      (clusters.map fun cluster => (cluster.id, cluster.parent))
    rwa [List.length_map] at entries
  exact (length_climb_le _ _ _ _).trans (Nat.succ_le_succ known)

end ClusterTree

theorem Placement.finiteWidth_of_isFinite {canvasWidth : Float}
    (finite : canvasWidth.isFinite = true) : FiniteWidth canvasWidth := by
  rw [finiteWidth_double_iff]
  exact Double.ofFloat_of_canonical (Double.canonical_stored finite)

namespace Layout

/-! ## Shapes -/

theorem ceilSqrt_le (count : Nat) : ceilSqrt count ≤ count := by
  rw [ceilSqrt]
  cases found : (List.range (count + 1)).find? fun side => decide (count ≤ side * side) with
  | none => exact Nat.le_refl count
  | some side =>
      have side_lt := List.mem_range.mp (List.mem_of_find?_eq_some found)
      exact Nat.le_of_lt_succ side_lt

theorem ceilDiv_le (count size : Nat) : ceilDiv count size ≤ count := by
  rw [ceilDiv]
  cases size with
  | zero => simp
  | succ size =>
      apply Nat.le_of_lt_succ
      rw [Nat.div_lt_iff_lt_mul (Nat.succ_pos size), Nat.succ_mul]
      have := Nat.le_mul_of_pos_right count (Nat.succ_pos size)
      omega

theorem ceilDiv_ne_zero {count size : Nat} (filled : count ≠ 0) (positive : size ≠ 0) :
    ceilDiv count size ≠ 0 := by
  rw [ceilDiv]
  exact (Nat.div_pos (by omega) (by omega)).ne'

theorem packShape_le {count : Nat} (filled : count ≠ 0) :
    (packShape count).1 ≤ count ∧ (packShape count).2 ≤ count := by
  rw [packShape]
  split
  · exact ⟨Nat.one_le_iff_ne_zero.mpr filled, Nat.one_le_iff_ne_zero.mpr filled⟩
  · exact ⟨ceilSqrt_le count, ceilDiv_le count _⟩

/-! ## Extents -/

open Double

variable {power : Nat}

theorem bounded_packedExtent {least count : Nat} (least_pos : least ≠ 0)
    (least_le : least ≤ 2 ^ (power + 8)) (count_le : count ≤ 2 ^ power) (within : power ≤ 400) :
    Bounded (power + 8) (packedExtent least count : Float) := by
  have positive := Nat.two_pow_pos power
  have extent_le : (count - 1) * Merge.memberStep + 36 + 36 ≤ 2 ^ (power + 8) := by
    rw [Merge.memberStep, Nat.pow_add]
    omega
  apply bounded_natCast
  · exact (Nat.lt_of_lt_of_le (Nat.pos_of_ne_zero least_pos) (Nat.le_max_left _ _)).ne'
  · exact Nat.max_le.mpr ⟨least_le, extent_le⟩
  · omega

/-- A cluster takes a bounded part of the plane. -/
theorem bounded_footprint (cluster : Cluster Float) (index columns : Nat)
    {members : List (Node Float)} {depth : Nat} (members_le : members.length ≤ 2 ^ power)
    (depth_le : depth ≤ 2 ^ power + 1) (within : power ≤ 400) :
    Bounded (power + 9) (footprint cluster index members columns depth).w ∧
      Bounded (power + 9) (footprint cluster index members columns depth).h := by
  have positive := Nat.two_pow_pos power
  have margin_le : 2 * 12 * depth ≤ 2 ^ (power + 8) := by
    rw [Nat.pow_add]
    omega
  have constant_le {size : Nat} (small : size ≤ 180) : size ≤ 2 ^ (power + 8) := by
    rw [Nat.pow_add]
    omega
  rw [footprint]
  split
  · constructor
    · exact (bounded_natCast (by decide) (constant_le (by decide)) (by omega)).add_natCast
        margin_le (by omega)
    · exact (bounded_natCast (by decide) (constant_le (by decide)) (by omega)).add_natCast
        margin_le (by omega)
  · rename_i filled
    have some_member : members.length ≠ 0 := by simpa using filled
    obtain ⟨wide, high⟩ := packShape_le some_member
    constructor
    · exact (bounded_packedExtent (by decide) (constant_le (by decide)) (wide.trans members_le)
        within).add_natCast margin_le (by omega)
    · exact (bounded_packedExtent (by decide) (constant_le (by decide)) (high.trans members_le)
        within).add_natCast margin_le (by omega)

theorem max_eq_or_eq {α : Type} [Scalar α] (a b : α) : Scalar.max a b = a ∨ Scalar.max a b = b := by
  rw [Scalar.max]
  split
  · exact Or.inr rfl
  · exact Or.inl rfl

theorem greatest_mem {α : Type} [Scalar α] {scalars : List α} (filled : scalars ≠ []) :
    greatest scalars ∈ scalars := by
  cases scalars with
  | nil => exact absurd rfl filled
  | cons first rest =>
      suffices reached : ∀ start, rest.foldl Scalar.max start ∈ start :: rest from reached first
      induction rest with
      | nil => simp
      | cons second rest induction =>
          intro start
          rw [List.foldl_cons]
          rcases List.mem_cons.mp (induction (by simp) (Scalar.max start second)) with here | there
          · rw [here]
            rcases max_eq_or_eq start second with same | same <;> simp [same]
          · exact List.mem_cons_of_mem _ (List.mem_cons_of_mem _ there)

/-! ## The grid -/

theorem bounded_constant {size : Nat} (positive : size ≠ 0) (small : size ≤ 2 ^ 8) :
    Bounded 900 (size : Float) :=
  (bounded_natCast positive small (by decide)).mono (by decide)

variable {count : Nat} {size : Float}

theorem exists_gridColumns_ok (filled : count ≠ 0) (bounded : Bounded power size)
    (within : power ≤ 1000) {extent : Float} (finite : extent.isFinite = true) :
    ∃ columns, gridColumns count size extent = .ok columns ∧ columns ≠ 0 ∧ columns ≤ count := by
  have available : (Scalar.max ((200 : Nat) : Float) (extent - ((80 : Nat) : Float))).isFinite =
      true := by
    rcases max_eq_or_eq ((200 : Nat) : Float) (extent - ((80 : Nat) : Float)) with same | same
    · rw [same]
      rfl
    · rw [same]
      exact isFinite_sub finite (bounded_constant (by decide) (by decide))
  obtain ⟨fitting, fitting_eq⟩ := exists_floorQuotient_ok available bounded within
  simp only [gridColumns, fitting_eq, bind, Except.bind, pure, Except.pure]
  split
  · refine ⟨_, rfl, ?_, Nat.min_le_right _ _⟩
    exact (Nat.lt_min.mpr ⟨Nat.le_max_left _ _, Nat.pos_of_ne_zero filled⟩).ne'
  · refine ⟨_, rfl, ?_, Nat.min_le_right _ _⟩
    exact (Nat.lt_min.mpr ⟨Nat.le_max_left _ _, Nat.pos_of_ne_zero filled⟩).ne'

theorem exists_origin_ok (filled : count ≠ 0) (count_le : count ≤ 2 ^ 400)
    (bounded : Bounded 410 size) {extent : Float} (finite : extent.isFinite = true) :
    ∃ start, origin count size extent = .ok start := by
  have taken : Bounded 900 ((count : Float) * size) :=
    (bounded.natCast_mul filled count_le (by decide)).mono (by decide)
  have small : Bounded 900 ((20 : Nat) : Float) := bounded_constant (by decide) (by decide)
  obtain ⟨whole, whole_eq⟩ :=
    exists_floor_ok (isFinite_half_add (isFinite_sub finite taken) small)
  simp only [origin, whole_eq, bind, Except.bind, pure, Except.pure]
  exact ⟨_, rfl⟩

/-- A canvas of finite size has a grid. -/
theorem exists_gridCells_ok (filled : count ≠ 0) (count_le : count ≤ 2 ^ 400) {width height : Float}
    (width_bounded : Bounded 410 width) (height_bounded : Bounded 410 height)
    {canvas : Canvas Float} (width_finite : canvas.width.isFinite = true)
    (height_finite : canvas.height.isFinite = true) :
    ∃ cells, gridCells count width height canvas = .ok cells := by
  obtain ⟨columns, columns_eq, some_column, columns_le⟩ :=
    exists_gridColumns_ok filled width_bounded (by decide) width_finite
  obtain ⟨left, left_eq⟩ :=
    exists_origin_ok some_column (columns_le.trans count_le) width_bounded width_finite
  obtain ⟨top, top_eq⟩ :=
    exists_origin_ok (ceilDiv_ne_zero filled some_column) ((ceilDiv_le _ _).trans count_le)
      height_bounded height_finite
  simp only [gridCells, columns_eq, left_eq, top_eq, bind, Except.bind, pure, Except.pure]
  exact ⟨_, rfl⟩

/-- Every footprint of a layout is bounded. -/
theorem bounded_footprints {clusters : List (Cluster Float)} {nodes : List (Node Float)}
    (clusters_le : clusters.length ≤ 2 ^ power) (nodes_le : nodes.length ≤ 2 ^ power)
    (within : power ≤ 400) :
    ∀ taken ∈ (footprints clusters nodes).map (·.2),
      Bounded (power + 9) taken.w ∧ Bounded (power + 9) taken.h := by
  intro taken taken_mem
  have entry_mem := Assoc.values_ofEntries_subset _ taken_mem
  rw [List.map_map, List.mem_map] at entry_mem
  obtain ⟨⟨cluster, index⟩, -, rfl⟩ := entry_mem
  apply bounded_footprint cluster index _ _ _ within
  · exact (List.length_filter_le _ _).trans nodes_le
  · exact (ClusterTree.depth_le clusters cluster.id).trans (Nat.succ_le_succ clusters_le)

theorem footprints_ne_nil {α : Type} [Scalar α] {clusters : List (Cluster α)}
    (filled : clusters ≠ []) (nodes : List (Node α)) : footprints clusters nodes ≠ [] := by
  apply Assoc.ofEntries_ne_nil
  simpa using filled

/-- The greatest extent of the footprints, with space around it, is bounded. -/
theorem bounded_cell {footprints : List (String × Footprint Float)} (filled : footprints ≠ [])
    (extent : Footprint Float → Float)
    (bounded : ∀ taken ∈ footprints.map (·.2), Bounded (power + 9) (extent taken))
    (within : power ≤ 400) :
    Bounded (power + 10) (greatest (footprints.map fun pair => extent pair.2) +
      ((120 : Nat) : Float)) := by
  have some_extent : (footprints.map fun pair => extent pair.2) ≠ [] := by simpa using filled
  obtain ⟨pair, pair_mem, extent_eq⟩ := List.mem_map.mp (greatest_mem some_extent)
  rw [← extent_eq]
  apply (bounded pair.2 (List.mem_map_of_mem pair_mem)).add_natCast _ (by omega)
  exact Nat.le_trans (by decide) (Nat.pow_le_pow_right Nat.two_pos (show 7 ≤ power + 9 by omega))

/-- On a canvas of finite size everything can be laid out. -/
theorem exists_layout_ok {clusters : List (Cluster Float)} {nodes : List (Node Float)}
    (clusters_le : clusters.length ≤ 2 ^ 400) (nodes_le : nodes.length ≤ 2 ^ 400)
    (anchor : Option (Anchor Float)) {canvas : Canvas Float}
    (width_finite : canvas.width.isFinite = true)
    (height_finite : canvas.height.isFinite = true) :
    ∃ placed, layout clusters nodes anchor canvas = .ok placed := by
  cases clusters with
  | nil => exact ⟨_, rfl⟩
  | cons cluster clusters =>
      have filled := footprints_ne_nil (List.cons_ne_nil cluster clusters) nodes
      have bounded := bounded_footprints clusters_le nodes_le (Nat.le_refl 400)
      have wide := bounded_cell filled Footprint.w (fun taken mem => (bounded taken mem).1)
        (Nat.le_refl 400)
      have high := bounded_cell filled Footprint.h (fun taken mem => (bounded taken mem).2)
        (Nat.le_refl 400)
      obtain ⟨cells, cells_eq⟩ :=
        exists_gridCells_ok (Nat.succ_ne_zero clusters.length) clusters_le wide high width_finite
          height_finite
      simp only [layout, List.isEmpty_cons, List.length_cons, cells_eq, bind, Except.bind, pure,
        Except.pure]
      exact ⟨_, rfl⟩

end Layout
end ClusterDiagram
