import ClusterDiagram.Layout
import ClusterDiagram.Proofs.ExactScalars
import ClusterDiagram.Proofs.FiniteLayout
import ClusterDiagram.Proofs.GroupLayout
import ClusterDiagram.Proofs.LabelPlaces

/-!
# Real scalars

Real numbers are scalars without rounding in which vectors have their lengths and directions, so that
labels stand beside the middle of every polyline. Over them there is a grid for any number of
clusters, and a layout of every diagram.
-/

namespace ClusterDiagram

/-- Exact arithmetic with exact lengths. Only the shortest decimal text, which a real number need
not have, is left out. -/
noncomputable instance : Scalar ℝ where
  natCast := Nat.cast
  intCast := Int.cast
  decideLT := inferInstance
  decideLE := inferInstance
  floor a := .ok ⌊a⌋
  ceil a := .ok ⌈a⌉
  floorQuotient a b := if b = 0 then .error .divisionByZero else .ok ⌊a / b⌋
  infinity := 0
  isInfinite _ := false
  hypot x y := √(x ^ 2 + y ^ 2)
  heading x y := if x = 0 ∧ y = 0 then (1, 0) else (x / √(x ^ 2 + y ^ 2), y / √(x ^ 2 + y ^ 2))
  ofFloat x := (DoubleValue.ofFloat x).toRat
  ofInt? n := some n
  toText _ := ""

instance : ExactScalar ℝ where
  value := id
  natCast _ := rfl
  add _ _ := rfl
  sub _ _ := rfl
  mul _ _ := rfl
  div _ _ := rfl
  le_iff _ _ := Iff.rfl
  beq_iff _ _ := beq_iff_eq

/-- Over real numbers all segments have the lengths that they have in the plane. -/
theorem Routing.hasPlaneLengths_real (way : List (Point ℝ × Point ℝ)) : HasPlaneLengths way :=
  fun _ _ => rfl

namespace Layout

theorem exists_gridCells_ok_real (count : ℕ) {width : ℝ} (positive : 0 < width) (height : ℝ)
    (canvas : Canvas ℝ) : ∃ cells, gridCells count width height canvas = .ok cells := by
  have quotient (a : ℝ) : Scalar.floorQuotient a width = .ok ⌊a / width⌋ := if_neg positive.ne'
  obtain ⟨columns, columns_eq⟩ :
      ∃ columns, gridColumns count width canvas.width = .ok columns := by
    simp only [gridColumns, quotient, bind, Except.bind, pure, Except.pure]
    split <;> exact ⟨_, rfl⟩
  rw [gridCells, columns_eq]
  exact ⟨_, rfl⟩

/-- The cells for a diagram are not flat, so that there is a grid for it. -/
theorem exists_gridFor_ok_real {clusters : List (Cluster ℝ)} (filled : clusters ≠ [])
    (nodes : List (Node ℝ)) (canvas : Canvas ℝ) :
    ∃ cells, gridFor clusters nodes canvas = .ok cells := by
  have wide : ∀ entry ∈ footprints clusters nodes, 0 ≤ entry.2.w := by
    intro entry entry_mem
    obtain ⟨⟨cluster, index⟩, -, rfl⟩ := List.mem_map.mp (Assoc.ofEntries_subset _ entry_mem)
    simp only [footprint]
    split <;> exact add_nonneg (Nat.cast_nonneg _) (Nat.cast_nonneg _)
  have some_width : (footprints clusters nodes).map (·.2.w) ≠ [] := by
    simpa using footprints_ne_nil filled nodes
  obtain ⟨entry, entry_mem, width_eq⟩ := List.mem_map.mp (greatest_mem some_width)
  apply exists_gridCells_ok_real
  rw [← width_eq]
  exact add_pos_of_nonneg_of_pos (wide entry entry_mem) (by norm_num)

end Layout
end ClusterDiagram
