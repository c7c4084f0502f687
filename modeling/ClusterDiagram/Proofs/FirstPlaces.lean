import ClusterDiagram.Proofs.SlotPlaces

/-!
# Places in numbers

A text that is read against nothing gives every node a place in whole units, away from both axes. A
layout moves such nodes without rounding.
-/

namespace ClusterDiagram

open HeldNumbers Layout

variable {α : Type} [Scalar α] [HeldNumbers α]

namespace Placement

/-- Whether a scalar holds a whole number other than zero within a bound. -/
def HoldsWhole (a : α) (bound : ℕ) : Prop :=
  ∃ units : ℕ, units ≠ 0 ∧ units ≤ bound ∧ Holds a (units : ℚ)

theorem placeOf_ne_zero (columns index : ℕ) :
    (placeOf columns index).1 ≠ 0 ∧ (placeOf columns index).2 ≠ 0 := by
  simp only [placeOf, slotPlace]
  split <;> constructor <;> omega

/-- All places that are taken lie within the bound. -/
theorem Reaches.placeOf_le {canvasWidth : α} {count bound columns index : ℕ}
    (reaches : Reaches canvasWidth count bound) (counted : HasColumns canvasWidth columns)
    (few : index ≤ count) :
    (placeOf columns index).1 ≤ bound ∧ (placeOf columns index).2 ≤ bound := by
  have low := reaches.slots
  have beyond := reaches.overflow
  rw [placeOf]
  split
  · rename_i within
    have positive : 0 < columns := by omega
    have column_lt : index % columns < columns := Nat.mod_lt index positive
    have row_lt : index / columns < 2 := (Nat.div_lt_iff_lt_mul positive).mpr within
    exact ⟨(Nat.add_le_add_left (Nat.mul_le_mul_right 300 column_lt.le) 80).trans
      (reaches.columns_le counted), by rw [slotPlace]; omega⟩
  · exact ⟨by omega, by omega⟩

theorem Reaches.holdsWhole {canvasWidth : α} {count bound columns index : ℕ}
    (reaches : Reaches canvasWidth count bound) (counted : HasColumns canvasWidth columns)
    (few : index ≤ count) {node : Node α}
    (placed : LiesAt node.x node.y (placeOf columns index)) :
    HoldsWhole node.x bound ∧ HoldsWhole node.y bound := by
  obtain ⟨x_nonzero, y_nonzero⟩ := placeOf_ne_zero columns index
  obtain ⟨x_le, y_le⟩ := reaches.placeOf_le counted few
  exact ⟨⟨_, x_nonzero, x_le, placed.1⟩, ⟨_, y_nonzero, y_le, placed.2⟩⟩

end Placement

open Placement

section Wholes

variable {a : α} {bound : ℕ} (whole : HoldsWhole a bound) (fits : Fits α (bound : ℚ))

include whole fits

/-- A layout moves what lies at whole units without rounding. -/
theorem movable_of_holdsWhole : Movable a := by
  obtain ⟨units, nonzero, within, held⟩ := whole
  have units_nonneg : (0 : ℚ) ≤ units := Nat.cast_nonneg units
  have units_held : Held α (units : ℚ) :=
    fits _ (isHalf_natCast units) ((abs_of_nonneg units_nonneg).trans_le (Nat.cast_le.mpr within))
  exact ⟨units, Nat.cast_ne_zero.mpr nonzero, held, units_held,
    fun p _ p_nonneg p_held => held_sub p_held units_held p_nonneg units_nonneg⟩

theorem isZero_of_holdsWhole : Scalar.isZero a = false := by
  obtain ⟨units, nonzero, -, held⟩ := whole
  have zero_held : Holds ((0 : ℕ) : α) ((0 : ℕ) : ℚ) :=
    fits.natCast (Nat.cast_le.mpr (Nat.zero_le bound))
  rw [Scalar.isZero, ← Bool.not_eq_true, beq_iff held zero_held]
  exact Nat.cast_injective.ne nonzero

end Wholes

/-- A text that is read against nothing places its nodes at whole units. -/
theorem Prompt.holdsWhole_of_read {context : Context α} (nodes_unknown : context.nodes = [])
    (clusters_unknown : context.clusters = []) {text : String} {drawn next bound : ℕ}
    (reaches : Placement.Reaches context.canvasWidth (3 * text.length) bound)
    {graph : Graph α} (done : read context text drawn = .ok (graph, next)) :
    ∀ node ∈ graph.nodes, HoldsWhole node.x bound ∧ HoldsWhole node.y bound := by
  have few := length_of_read done
  intro node node_mem
  obtain ⟨index, index_lt, rfl⟩ := List.getElem_of_mem node_mem
  rcases takesTurns_of_read nodes_unknown clusters_unknown reaches done with
    none | ⟨columns, counted, turn⟩
  · exact absurd none (List.ne_nil_of_mem node_mem)
  · exact reaches.holdsWhole counted (by omega) (turn _ _ (List.getElem?_eq_getElem index_lt))

end ClusterDiagram
