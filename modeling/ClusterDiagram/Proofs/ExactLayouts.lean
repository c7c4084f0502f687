import ClusterDiagram.Proofs.FirstPlaces
import ClusterDiagram.Proofs.PackedLayout

/-!
# Exact layouts

Over exact numbers everything can be laid out on every canvas, and no number is out of reach.
-/

namespace ClusterDiagram

open HeldNumbers

variable [Lengths]

namespace Placement

theorem floorQuotient_rational (canvasWidth : ℚ) :
    Scalar.floorQuotient canvasWidth (cellSize (emptyWidth : ℚ) (emptyHeight : ℚ)).1 =
      .ok ⌊canvasWidth / 300⌋ := by
  have size : (cellSize (emptyWidth : ℚ) (emptyHeight : ℚ)).1 = 300 := by
    norm_num [cellSize, Scalar.max, emptyWidth]
  rw [size]
  exact if_neg (by norm_num)

theorem exists_reaches_rational (canvasWidth : ℚ) (count : ℕ) :
    ∃ bound, Reaches canvasWidth count bound := by
  refine ⟨680 + 300 * ⌊canvasWidth / 300⌋.toNat + count * 20, fits_rational _, by omega, ?_,
    by omega⟩
  intro columns counted
  rw [floorQuotient_rational] at counted
  obtain rfl := Except.ok.inj counted
  omega

end Placement

namespace Layout

theorem exists_gridColumns_ok_rational (count : ℕ) {size : ℚ} (positive : 0 < size) (extent : ℚ) :
    ∃ columns, gridColumns count size extent = .ok columns := by
  have quotient (a : ℚ) : Scalar.floorQuotient a size = .ok ⌊a / size⌋ := if_neg positive.ne'
  simp only [gridColumns, quotient, bind, Except.bind, pure, Except.pure]
  split <;> exact ⟨_, rfl⟩

/-- No cell is flat. -/
theorem cellExtents_pos {clusters : List (Cluster ℚ)} (filled : clusters ≠ [])
    (nodes : List (Node ℚ)) :
    0 < greatest ((footprints clusters nodes).map (·.2.w)) + ((120 : ℕ) : ℚ) ∧
      0 < greatest ((footprints clusters nodes).map (·.2.h)) + ((120 : ℕ) : ℚ) := by
  have extents : ∀ entry ∈ footprints clusters nodes, 0 ≤ entry.2.w ∧ 0 ≤ entry.2.h := by
    intro entry entry_mem
    obtain ⟨⟨cluster, index⟩, -, rfl⟩ := List.mem_map.mp (Assoc.ofEntries_subset _ entry_mem)
    obtain ⟨width_eq, height_eq⟩ := holds_footprint (fits_rational _) cluster index _ _ rfl rfl
      (le_max_left _ _) (le_max_right _ _)
    exact ⟨width_eq.symm ▸ Nat.cast_nonneg _, height_eq.symm ▸ Nat.cast_nonneg _⟩
  have greatest_pos {extent : String × Footprint ℚ → ℚ}
      (nonneg : ∀ entry ∈ footprints clusters nodes, 0 ≤ extent entry) :
      0 < greatest ((footprints clusters nodes).map extent) + ((120 : ℕ) : ℚ) := by
    have some_extent : (footprints clusters nodes).map extent ≠ [] := by
      simpa using footprints_ne_nil filled nodes
    obtain ⟨entry, entry_mem, extent_eq⟩ := List.mem_map.mp (greatest_mem some_extent)
    rw [← extent_eq]
    exact add_pos_of_nonneg_of_pos (nonneg entry entry_mem) (by norm_num)
  exact ⟨greatest_pos fun entry entry_mem => (extents entry entry_mem).1,
    greatest_pos fun entry entry_mem => (extents entry entry_mem).2⟩

/-- Over exact numbers there is a layout on every canvas. -/
theorem exists_layout_ok_rational (clusters : List (Cluster ℚ)) (nodes : List (Node ℚ))
    (anchor : Option (Anchor ℚ)) (canvas : Canvas ℚ) :
    ∃ placed, layout clusters nodes anchor canvas = .ok placed := by
  by_cases filled : clusters = []
  · rw [filled]
    exact ⟨_, rfl⟩
  · obtain ⟨columns, columns_eq⟩ := exists_gridColumns_ok_rational clusters.length
      (cellExtents_pos filled nodes).1 canvas.width
    obtain ⟨cells, cells_eq⟩ : ∃ cells, gridFor clusters nodes canvas = .ok cells := by
      rw [gridFor, gridCells, columns_eq]
      exact ⟨_, rfl⟩
    rw [layout_eq filled, cells_eq]
    exact ⟨_, rfl⟩

/-- No canvas is out of reach. -/
theorem reaches_rational (canvasExtent : ℚ) (count units : ℕ) (slack : ℚ) :
    Reaches canvasExtent count units slack :=
  ⟨fits_rational _, fun _ _ _ _ _ _ _ => fits_rational _⟩

theorem movable_rational {a : ℚ} (nonzero : a ≠ 0) : Movable a :=
  ⟨a, nonzero, rfl, trivial, fun _ _ _ _ => trivial⟩

end Layout
end ClusterDiagram
