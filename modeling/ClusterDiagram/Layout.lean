import ClusterDiagram.Merge.Basic
import ClusterDiagram.ClusterTree

/-!
# Layout

Every cluster gets one cell of a near-square grid that is centred on the canvas, and its members are
packed around the centre of the cell. One cluster may be pinned to the cell nearest to a point.
Floating nodes stay where they are.
-/

namespace ClusterDiagram
namespace Layout

/-- A cluster that is pinned near a point. -/
structure Anchor (α : Type) where
  /-- Id of the cluster. -/
  cluster : String
  /-- Horizontal position wanted. -/
  x : α
  /-- Vertical position wanted. -/
  y : α

/-- A cell of the grid. -/
structure Cell (α : Type) where
  /-- Left edge. -/
  x : α
  /-- Top edge. -/
  y : α
  /-- Horizontal centre. -/
  cx : α
  /-- Vertical centre. -/
  cy : α

/-- What the grid has to know of a cluster. -/
structure Footprint (α : Type) where
  /-- Width with margins. -/
  w : α
  /-- Height with margins. -/
  h : α
  /-- Present horizontal centre. -/
  cx : α
  /-- Present vertical centre. -/
  cy : α

/-- The least side whose square is at least the count. -/
def ceilSqrt (count : Nat) : Nat :=
  ((List.range (count + 1)).find? fun side => decide (count ≤ side * side)).getD count

/-- The square root rounded to the nearest side, a half going up. -/
def roundSqrt (count : Nat) : Nat :=
  let side := ceilSqrt count
  if count ≤ side * (side - 1) then side - 1 else side

/-- The quotient of two counts, rounded up. -/
def ceilDiv (count size : Nat) : Nat :=
  (count + size - 1) / size

/-- Columns and rows of the sub-grid for a number of members. -/
def packShape (count : Nat) : Nat × Nat :=
  if count ≤ 1 then (1, 1)
  else (ceilSqrt count, ceilDiv count (ceilSqrt count))

/-- Columns for the first guess of a position. -/
def guessColumns (count : Nat) : Nat :=
  Nat.max 1 (roundSqrt count)

variable {α : Type} [Scalar α]

/-- The extent of a row of packed members, at least `least`. -/
def packedExtent (least count : Nat) : α :=
  ((Nat.max least ((count - 1) * Merge.memberStep + 36 + 36) : Nat) : α)

/-- Where an empty cluster is taken to be while it has no anchor. -/
def guess (size gap start position : Nat) : α :=
  ((position * (size + gap) + start : Nat) : α)

/-- The footprint of the cluster at an index, by its members and its depth. -/
def footprint (cluster : Cluster α) (index : Nat) (members : List (Node α)) (columns depth : Nat) :
    Footprint α :=
  let margin : α := ((2 * 12 * depth : Nat) : α)
  if members.isEmpty then
    { w := (Placement.emptyWidth : α) + margin
      h := (Placement.emptyHeight : α) + margin
      cx := cluster.x.getD (guess Placement.emptyWidth 40 120 (index % columns))
      cy := cluster.y.getD (guess Placement.emptyHeight 40 80 (index / columns)) }
  else
    let shape := packShape members.length
    { w := packedExtent 120 shape.1 + margin
      h := packedExtent 80 shape.2 + margin
      cx := Scalar.sum (members.map (·.x)) / (members.length : α)
      cy := Scalar.sum (members.map (·.y)) / (members.length : α) }

/-- The number of columns of the grid. -/
def gridColumns (count : Nat) (cellWidth canvasWidth : α) : Except ArithmeticError Nat := do
  let columns := Nat.max 1 (roundSqrt count)
  let available := Scalar.max ((200 : Nat) : α) (canvasWidth - ((80 : Nat) : α))
  let columns ← if available < (columns : α) * cellWidth then
      pure (Nat.max 1 (← Scalar.floorQuotient available cellWidth).toNat)
    else pure columns
  return Nat.min columns count

/-- Where the grid begins on an axis. -/
def origin (count : Nat) (size extent : α) : Except ArithmeticError Int := do
  return Max.max 20
    (← Scalar.floor ((extent - (count : α) * size) / ((2 : Nat) : α) + ((20 : Nat) : α)))

/-- The cell in a row and a column. -/
def cellAt (originX originY : Int) (width height : α) (row column : Nat) : Cell α :=
  let x := (originX : α) + (column : α) * width
  let y := (originY : α) + (row : α) * height
  { x, y, cx := x + width / ((2 : Nat) : α), cy := y + height / ((2 : Nat) : α) }

/-- The cells for a number of clusters, row by row. -/
def gridCells (count : Nat) (width height : α) (canvas : Canvas α) :
    Except ArithmeticError (List (Cell α)) := do
  let columns ← gridColumns count width canvas.width
  let rows := ceilDiv count columns
  let originX ← origin columns width canvas.width
  let originY ← origin rows height canvas.height
  return (List.range rows).flatMap fun row =>
    (List.range columns).map fun column => cellAt originX originY width height row column

/-- The index of the cell whose centre is nearest to a point, the first one among equals. `best` is
the nearest distance so far with its index, `index` that of the next cell. -/
def nearestFrom (x y : α) : Option (α × Nat) → Nat → List (Cell α) → Option (α × Nat)
  | best, _, [] => best
  | best, index, cell :: cells =>
      let distance := Scalar.hypot (cell.cx - x) (cell.cy - y)
      let nearer := Scalar.isBelow (best.map (·.1)) distance
      nearestFrom x y (if nearer then some (distance, index) else best) (index + 1) cells

/-- The index of the cell whose centre is nearest to a point. -/
def nearestCell (x y : α) (cells : List (Cell α)) : Nat :=
  ((nearestFrom x y none 0 cells).map (·.2)).getD 0

/-- Give each cluster the index of a cell: in order, but a pinned cluster gets the nearest cell and
the others the rest. -/
def assignCells (ids : List String) (cells : List (Cell α)) (anchor : Option (Anchor α)) :
    List (String × Nat) :=
  match anchor.filter fun anchor => ids.contains anchor.cluster with
  | none => Assoc.ofEntries (ids.zip (List.range ids.length))
  | some anchor =>
      let best := nearestCell anchor.x anchor.y cells
      let free := (List.range cells.length).filter (· != best)
      let others := ids.filter (· != anchor.cluster)
      (anchor.cluster, best) :: Assoc.ofEntries (others.zip free)

/-- Where a cluster moves: its cell, and the displacement of its centre. -/
structure Target (α : Type) where
  /-- Horizontal displacement. -/
  dx : α
  /-- Vertical displacement. -/
  dy : α
  /-- The cell. -/
  cell : Cell α

/-- The target of a cluster; a centre at zero counts as already there. -/
def target (footprint : Footprint α) (cell : Cell α) : Target α where
  dx := cell.cx - (if Scalar.isZero footprint.cx then cell.cx else footprint.cx)
  dy := cell.cy - (if Scalar.isZero footprint.cy then cell.cy else footprint.cy)
  cell := cell

/-- The offset of a slot from the middle of a row of slots. -/
def slotOffset (slot count : Nat) : α :=
  ((slot : α) - ((count - 1 : Nat) : α) / ((2 : Nat) : α)) * (Merge.memberStep : α)

/-- Move a member that is number `slot` of a group of a size. -/
def placeMember (target : Target α) (size slot : Nat) (node : Node α) : Node α :=
  if size = 1 then { node with x := node.x + target.dx, y := node.y + target.dy }
  else
    let shape := packShape size
    { node with
      x := target.cell.cx + slotOffset (slot % shape.1) shape.1
      y := target.cell.cy + slotOffset (slot / shape.1) shape.2 }

/-- Move every member with its cluster; `slots` counts the members already placed. -/
def placeMembers (targets : List (String × Target α)) (size : String → Nat) :
    List (String × Nat) → List (Node α) → List (Node α)
  | _, [] => []
  | slots, node :: nodes =>
      match node.cluster.bind fun id => (targets.lookup id).map fun target => (id, target) with
      | none => node :: placeMembers targets size slots nodes
      | some (id, target) =>
          let slot := (slots.lookup id).getD 0
          placeMember target (size id) slot node ::
            placeMembers targets size (Assoc.put id (slot + 1) slots) nodes

/-- The greatest of some scalars, zero when there is none. -/
def greatest : List α → α
  | [] => ((0 : Nat) : α)
  | first :: rest => rest.foldl Scalar.max first

/-- The members of a cluster. -/
def membersOf (nodes : List (Node α)) (id : String) : List (Node α) :=
  nodes.filter fun node => node.cluster == some id

/-- The footprint of every cluster. -/
def footprints (clusters : List (Cluster α)) (nodes : List (Node α)) :
    List (String × Footprint α) :=
  let parents := ClusterTree.parents clusters
  let columns := guessColumns clusters.length
  Assoc.ofEntries (clusters.zipIdx.map fun (cluster, index) =>
    (cluster.id, footprint cluster index (membersOf nodes cluster.id) columns
      (ClusterTree.depth parents cluster.id)))

/-- Place the clusters on the grid and their members with them. -/
def layout (clusters : List (Cluster α)) (nodes : List (Node α)) (anchor : Option (Anchor α))
    (canvas : Canvas α) : Except ArithmeticError (List (Cluster α) × List (Node α)) := do
  if clusters.isEmpty then return (clusters, nodes)
  let footprints := footprints clusters nodes
  let spacing : α := ((120 : Nat) : α)
  let width := greatest (footprints.map (·.2.w)) + spacing
  let height := greatest (footprints.map (·.2.h)) + spacing
  let cells ← gridCells clusters.length width height canvas
  let assignment := assignCells (clusters.map (·.id)) cells anchor
  let targets := footprints.filterMap fun (id, footprint) =>
    ((assignment.lookup id).bind (cells[·]?)).map fun cell => (id, target footprint cell)
  let placed := clusters.map fun cluster =>
    match targets.lookup cluster.id with
    | some target => { cluster with x := some target.cell.x, y := some target.cell.y }
    | none => cluster
  return (placed, placeMembers targets (fun id => (membersOf nodes id).length) [] nodes)

end Layout
end ClusterDiagram
