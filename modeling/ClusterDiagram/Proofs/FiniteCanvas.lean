import ClusterDiagram.Layout
import ClusterDiagram.Proofs.Computations
import ClusterDiagram.Scalar.Binary

/-!
# Finite canvases

Counting the slots of a canvas needs a finite width, and nothing else can fail when a place is
looked for. For doubles these are exactly the widths that are finite numbers.
-/

namespace ClusterDiagram
namespace Placement

variable {α : Type} [Scalar α]

/-- A width that holds a whole number of slots. -/
def FiniteWidth (canvasWidth : α) : Prop :=
  ∃ columns, Scalar.floorQuotient canvasWidth
    (cellSize (emptyWidth : α) (emptyHeight : α)).1 = .ok columns

/-- On a canvas of finite width there is a place for every node. -/
theorem FiniteWidth.nodeSlot {canvasWidth : α} (finite : FiniteWidth canvasWidth)
    (nodes : List (Node α)) (clusters : List (Cluster α)) :
    ∃ point, nodeSlot nodes clusters canvasWidth = .ok point := by
  obtain ⟨columns, counted⟩ := finite
  rw [Placement.nodeSlot, emptySlot, counted]
  simp only [bind, Except.bind, pure, Except.pure]
  split
  · exact ⟨_, rfl⟩
  · exact ⟨_, rfl⟩

/-- Where there is a place for a node, the canvas has a finite width. -/
theorem finiteWidth_of_nodeSlot {nodes : List (Node α)} {clusters : List (Cluster α)}
    {canvasWidth : α} {point : Point α} (placed : nodeSlot nodes clusters canvasWidth = .ok point) :
    FiniteWidth canvasWidth := by
  obtain ⟨columns, counted, -⟩ := ok_of_bind placed
  exact ⟨columns, counted⟩

/-- A double is a finite width exactly when it is a finite number. -/
theorem finiteWidth_double_iff (canvasWidth : Float) :
    FiniteWidth canvasWidth ↔ ∃ negative significand exponent,
      DoubleValue.ofFloat canvasWidth = .finite negative significand exponent := by
  have size : DoubleValue.ofFloat (cellSize (emptyWidth : Float) (emptyHeight : Float)).1 =
      .finite false 5277655813324800 (-44) := by
    decide
  have quotient : Scalar.floorQuotient canvasWidth
      (cellSize (emptyWidth : Float) (emptyHeight : Float)).1 =
      Binary.floorQuotient canvasWidth
        (cellSize (emptyWidth : Float) (emptyHeight : Float)).1 := rfl
  rw [FiniteWidth, quotient, Binary.floorQuotient, size]
  cases DoubleValue.ofFloat canvasWidth <;> simp

end Placement
end ClusterDiagram
