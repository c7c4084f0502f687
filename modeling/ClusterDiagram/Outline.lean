import ClusterDiagram.ClusterTree
import ClusterDiagram.Placement

/-!
# Outlines

The outline of a cluster is the least box around its members and around the outlines of its child
clusters, with a padding. It is derived from the diagram and never stored. An empty cluster has its
anchor as corner, or else a free slot. Hit testing and the frame of a diagram read the outlines.
-/

namespace ClusterDiagram
namespace Outline

/-- Half the extent of a member's box. -/
def memberExtent : Nat := 36

/-- Padding of an outline on every side. -/
def padding : Nat := 8

/-- Half the extent of a node's box in the frame. -/
def frameMargin : Nat := 22

/-- Padding of the frame on every side. -/
def framePadding : Nat := 8

variable {α : Type} [Scalar α]

/-- The extent of the boxes met so far. A side that no box has reached is absent. -/
structure Extent (α : Type) where
  /-- Least left edge. -/
  left : Option α := none
  /-- Least top edge. -/
  top : Option α := none
  /-- Greatest right edge. -/
  right : Option α := none
  /-- Greatest bottom edge. -/
  bottom : Option α := none

namespace Extent

/-- Take in a box given by its sides. -/
def add (extent : Extent α) (left top right bottom : α) : Extent α where
  left := Scalar.lowest extent.left left
  top := Scalar.lowest extent.top top
  right := Scalar.highest extent.right right
  bottom := Scalar.highest extent.bottom bottom

/-- Take in the square of a half extent around a node. -/
def addNode (margin : Nat) (extent : Extent α) (node : Node α) : Extent α :=
  extent.add (node.x - (margin : α)) (node.y - (margin : α)) (node.x + (margin : α))
    (node.y + (margin : α))

/-- Take in a rectangle. -/
def addRect (extent : Extent α) (rect : Rect α) : Extent α :=
  extent.add rect.x rect.y (rect.x + rect.w) (rect.y + rect.h)

/-- Whether the left side is not bounded, as when nothing was taken in. -/
def isUnbounded (extent : Extent α) : Bool :=
  extent.left.all Scalar.isInfinite

/-- The left side. -/
def minX (extent : Extent α) : α := extent.left.getD Scalar.infinity

/-- The top side. -/
def minY (extent : Extent α) : α := extent.top.getD Scalar.infinity

/-- The right side. -/
def maxX (extent : Extent α) : α := extent.right.getD (-Scalar.infinity)

/-- The bottom side. -/
def maxY (extent : Extent α) : α := extent.bottom.getD (-Scalar.infinity)

end Extent

/-- The rectangle of an empty cluster at a corner. -/
def emptyRect (x y : α) : Rect α :=
  ⟨x, y, (Placement.emptyWidth : α), (Placement.emptyHeight : α)⟩

/-- The outline of a cluster with the given members around the given outlines of its children. -/
def enclose (nodes : List (Node α)) (clusters : List (Cluster α)) (canvasWidth : α)
    (cluster : Option (Cluster α)) (members : List (Node α)) (children : List (Rect α)) :
    Except ArithmeticError (Rect α) := do
  let extent := children.foldl Extent.addRect (members.foldl (Extent.addNode memberExtent) {})
  if extent.isUnbounded then
    match cluster.bind (·.x), cluster.bind (·.y) with
    | some x, some y => return emptyRect x y
    | _, _ =>
        let corner ← Placement.emptySlot (Placement.emptyWidth : α) (Placement.emptyHeight : α)
          nodes clusters canvasWidth
        return emptyRect corner.x corner.y
  else
    let pad : α := (padding : α)
    let pads : α := ((padding * 2 : Nat) : α)
    return {
      x := extent.minX - pad
      y := extent.minY - pad
      w := (extent.maxX - extent.minX) + pads
      h := (extent.maxY - extent.minY) + pads }

/-- The ids of the clusters directly below an id, in order. -/
def childIds (clusters : List (Cluster α)) (id : String) : List String :=
  (clusters.filter fun child =>
    child.parent == some id && child.id != id && Cluster.isListed clusters id).map (·.id)

/-- Outline a cluster after its children. Clusters that are outlined already or stand on the path
from the start are left alone. The fuel bounds the length of the path. -/
def visit (nodes : List (Node α)) (clusters : List (Cluster α)) (canvasWidth : α) :
    Nat → List String → List (String × Rect α) → String →
      Except ArithmeticError (List (String × Rect α))
  | 0, _, outlines, _ => .ok outlines
  | fuel + 1, path, outlines, id =>
      if (outlines.lookup id).isSome || path.contains id then .ok outlines
      else do
        let children := childIds clusters id
        let outlines ← children.foldlM (visit nodes clusters canvasWidth fuel (id :: path)) outlines
        let members := nodes.filter fun node => node.cluster == some id
        let outline ← enclose nodes clusters canvasWidth (Cluster.lastWith? id clusters) members
          (children.filterMap fun child => outlines.lookup child)
        return outlines ++ [(id, outline)]

/-- The outline of every cluster, children before their parents. -/
def ofClusters (clusters : List (Cluster α)) (nodes : List (Node α)) (canvasWidth : α) :
    Except ArithmeticError (List (String × Rect α)) :=
  (clusters.map (·.id)).foldlM
    (fun outlines id => visit nodes clusters canvasWidth (clusters.length + 1) [] outlines id) []

/-- Whether a rectangle holds a point, its border included. -/
def holds (rect : Rect α) (point : Point α) : Bool :=
  decide (rect.x ≤ point.x) && decide (point.x ≤ rect.x + rect.w) &&
    decide (rect.y ≤ point.y) && decide (point.y ≤ rect.y + rect.h)

/-- The deeper of two clusters, the first one unless the second is strictly deeper. -/
def deeper (depths : List (String × Nat)) (best : Option String) (id : String) : Option String :=
  match best with
  | none => some id
  | some best =>
      if (depths.lookup best).getD 0 < (depths.lookup id).getD 0 then some id else some best

/-- The innermost cluster whose outline holds a point, the first one among equally deep ones. -/
def clusterAt? (point : Point α) (clusters : List (Cluster α))
    (outlines : List (String × Rect α)) : Option String :=
  let depths := ClusterTree.depths clusters
  (clusters.filter fun cluster => (outlines.lookup cluster.id).any (holds · point)).foldl
    (fun best cluster => deeper depths best cluster.id) none

/-- The frame of a whole diagram, in whole units. -/
structure Frame where
  /-- Left edge. -/
  x : Int
  /-- Top edge. -/
  y : Int
  /-- Width. -/
  w : Int
  /-- Height. -/
  h : Int
  deriving DecidableEq, Repr

/-- The least frame around every node and every outline, cut at the origin. An empty diagram has a
frame of its own. -/
def frame (nodes : List (Node α)) (outlines : List (String × Rect α)) :
    Except ArithmeticError Frame := do
  let extent := (outlines.map (·.2)).foldl Extent.addRect
    (nodes.foldl (Extent.addNode frameMargin) {})
  if extent.isUnbounded then return ⟨0, 0, 800, 600⟩
  else
    let pad : α := (framePadding : α)
    let left := Max.max 0 (← Scalar.floor (extent.minX - pad))
    let top := Max.max 0 (← Scalar.floor (extent.minY - pad))
    let right ← Scalar.ceil (extent.maxX + pad)
    let bottom ← Scalar.ceil (extent.maxY + pad)
    return ⟨left, top, Max.max 1 (right - left), Max.max 1 (bottom - top)⟩

end Outline
end ClusterDiagram
