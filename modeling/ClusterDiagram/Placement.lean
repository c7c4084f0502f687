import ClusterDiagram.Graph.Basic

/-!
# Free places on the canvas

A new entity is placed in the first slot of a coarse grid, row by row, whose padded rectangle keeps
clear of every node and of every anchored cluster. When no slot is free the place depends on the
number of entities only, so that successive entities do not coincide.
-/

namespace ClusterDiagram

/-- A point of the canvas; `y` grows downwards. -/
structure Point (α : Type) where
  /-- Horizontal coordinate. -/
  x : α
  /-- Vertical coordinate. -/
  y : α
  deriving DecidableEq, Repr, Inhabited

/-- A rectangle with its top left corner and its extent. -/
structure Rect (α : Type) where
  /-- Left edge. -/
  x : α
  /-- Top edge. -/
  y : α
  /-- Width. -/
  w : α
  /-- Height. -/
  h : α
  deriving DecidableEq, Repr, Inhabited

/-- The drawing area. -/
structure Canvas (α : Type) where
  /-- Width of the drawing area. -/
  width : α
  /-- Height of the drawing area. -/
  height : α
  deriving DecidableEq, Repr, Inhabited

variable {α : Type} [Scalar α]

/-- Whether two rectangles touch or overlap. -/
def Rect.overlaps (a b : Rect α) : Bool :=
  !(decide (a.x + a.w < b.x) || decide (b.x + b.w < a.x) || decide (a.y + a.h < b.y) ||
    decide (b.y + b.h < a.y))

namespace Placement

/-- Clearance kept around a slot and around an anchored cluster. -/
def slotMargin : Nat := 24

/-- Clearance kept around the centre of a node. -/
def nodeClearance : Nat := 36

/-- Width of a cluster without members. -/
def emptyWidth : Nat := 180

/-- Height of a cluster without members. -/
def emptyHeight : Nat := 100

/-- The rectangle that a node keeps free. -/
def nodeRect (node : Node α) : Rect α where
  x := node.x - (nodeClearance : α)
  y := node.y - (nodeClearance : α)
  w := ((nodeClearance * 2 : Nat) : α)
  h := ((nodeClearance * 2 : Nat) : α)

/-- The rectangle that a cluster keeps free, when neither coordinate of its anchor is zero. -/
def clusterRect? (cluster : Cluster α) : Option (Rect α) :=
  match cluster.x, cluster.y with
  | some x, some y =>
      if Scalar.isZero x || Scalar.isZero y then none
      else some
        { x := x - (slotMargin : α)
          y := y - (slotMargin : α)
          w := ((emptyWidth + slotMargin * 2 : Nat) : α)
          h := ((emptyHeight + slotMargin * 2 : Nat) : α) }
  | _, _ => none

/-- All rectangles that are taken. -/
def occupied (nodes : List (Node α)) (clusters : List (Cluster α)) : List (Rect α) :=
  nodes.map nodeRect ++ clusters.filterMap clusterRect?

/-- The extent of the grid's cells for rectangles of a size. -/
def cellSize (w h : α) : α × α :=
  (Scalar.max ((220 : Nat) : α) (w + ((120 : Nat) : α)),
    Scalar.max ((160 : Nat) : α) (h + ((80 : Nat) : α)))

/-- The corner of the slot in a row and a column. -/
def corner (cell : α × α) (row column : Nat) : Point α :=
  ⟨((80 : Nat) : α) + (column : α) * cell.1, ((60 : Nat) : α) + (row : α) * cell.2⟩

/-- Whether a rectangle of a size at a corner, with its margin, keeps clear of all taken ones. -/
def isFree (w h : α) (taken : List (Rect α)) (corner : Point α) : Bool :=
  let slot : Rect α :=
    { x := corner.x - (slotMargin : α)
      y := corner.y - (slotMargin : α)
      w := w + ((slotMargin * 2 : Nat) : α)
      h := h + ((slotMargin * 2 : Nat) : α) }
  !taken.any slot.overlaps

/-- The first of the columns from `column` on whose slot is accepted. -/
def scanRow (accept : Nat → Bool) : Nat → Nat → Option Nat
  | 0, _ => none
  | count + 1, column => if accept column then some column else scanRow accept count (column + 1)

/-- The first accepted slot of the rows from `row` on, as a row and a column. -/
def scanGrid (accept : Nat → Nat → Bool) (columns : Nat) : Nat → Nat → Option (Nat × Nat)
  | 0, _ => none
  | count + 1, row =>
      match scanRow (accept row) columns 0 with
      | some column => some (row, column)
      | none => scanGrid accept columns count (row + 1)

/-- The place used when every slot is taken. -/
def overflow (count : Nat) : Point α :=
  ⟨((100 + count * 20 : Nat) : α), ((80 + count / 6 * 40 : Nat) : α)⟩

/-- The top left corner of the first free slot for a rectangle of a size. -/
def emptySlot (w h : α) (nodes : List (Node α)) (clusters : List (Cluster α)) (canvasWidth : α) :
    Except ArithmeticError (Point α) := do
  let cell := cellSize w h
  let columns := Nat.max 2 (← Scalar.floorQuotient canvasWidth cell.1).toNat
  let rows := Nat.max 2 ((clusters.length + columns) / columns)
  let taken := occupied nodes clusters
  let accept row column := isFree w h taken (corner cell row column)
  match scanGrid accept columns rows 0 with
  | some (row, column) => return corner cell row column
  | none => return overflow (clusters.length + nodes.length)

/-- The place of a new node: the first free slot for an empty cluster. -/
def nodeSlot (nodes : List (Node α)) (clusters : List (Cluster α)) (canvasWidth : α) :
    Except ArithmeticError (Point α) :=
  emptySlot (emptyWidth : α) (emptyHeight : α) nodes clusters canvasWidth

end Placement

end ClusterDiagram
