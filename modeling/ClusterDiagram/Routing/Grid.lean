import ClusterDiagram.Routing.Geometry
import ClusterDiagram.Routing.Search

/-!
# Routes through the grid

The region around two points is cut into square cells, the first point being the centre of one.
Cells that an obstacle overlaps are blocked, and a shortest way through the others is reduced to its
corners. The cells grow when the region would take too many of them.
-/

namespace ClusterDiagram
namespace Routing

variable {α : Type} [Scalar α]

/-- How finely and how widely the grid is laid. -/
structure GridOptions (α : Type) where
  /-- Preferred side of a cell. -/
  cell : α
  /-- Room around the two points. -/
  margin : α
  /-- Greatest number of cells on an axis. -/
  maxCells : Int

/-- The usual options. -/
def GridOptions.standard : GridOptions α where
  cell := ((10 : Nat) : α)
  margin := ((160 : Nat) : α)
  maxCells := 160

/-- A quotient, unless the divisor is zero. -/
@[specialize] def divide (a b : α) : Except ArithmeticError α :=
  if Scalar.isZero b then .error .divisionByZero else .ok (a / b)

/-- A grid with its place on the canvas. -/
structure Raster (α : Type) where
  /-- Left side of the first column. -/
  left : α
  /-- Top side of the first row. -/
  top : α
  /-- Side of a cell. -/
  cell : α
  /-- Number of columns and rows. -/
  size : GridSize

namespace Raster

/-- The number of cells before a coordinate. -/
@[specialize] def index (start cell a : α) : Except ArithmeticError Int := do
  Scalar.floor (← divide (a - start) cell)

/-- Where an axis begins, so that the first coordinate is the centre of a cell. -/
@[specialize] def axisStart (cell margin a b : α) : Except ArithmeticError α := do
  let least := Scalar.min a b - margin
  let before ← Scalar.ceil (← divide (a - least) cell)
  return a - ((before : α) + ((1 : Nat) : α) / ((2 : Nat) : α)) * cell

/-- The number of cells of an axis. -/
@[specialize] def axisCount (cell margin start a b : α) : Except ArithmeticError Int := do
  let greatest := Scalar.max a b + margin
  return (← Scalar.ceil (← divide (greatest - start) cell)) + 1

/-- The grid around two points. -/
@[specialize] def around (options : GridOptions α) (p₁ p₂ : Point α) :
    Except ArithmeticError (Raster α) := do
  let two : α := ((2 : Nat) : α)
  let maxCells : α := (options.maxCells : α)
  let spanX := Scalar.abs (p₂.x - p₁.x) + two * options.margin
  let spanY := Scalar.abs (p₂.y - p₁.y) + two * options.margin
  let cell := Scalar.max (Scalar.max options.cell (← divide spanX maxCells))
    (← divide spanY maxCells)
  let left ← axisStart cell options.margin p₁.x p₂.x
  let top ← axisStart cell options.margin p₁.y p₂.y
  let columns ← axisCount cell options.margin left p₁.x p₂.x
  let rows ← axisCount cell options.margin top p₁.y p₂.y
  return ⟨left, top, cell, ⟨columns, rows⟩⟩

/-- The cell that a point lies in. -/
@[specialize] def cellOf (raster : Raster α) (p : Point α) : Except ArithmeticError GridCell := do
  return (← index raster.left raster.cell p.x, ← index raster.top raster.cell p.y)

/-- The centre of a cell. -/
@[specialize] def center (raster : Raster α) (cell : GridCell) : Point α :=
  let half : α := ((1 : Nat) : α) / ((2 : Nat) : α)
  ⟨raster.left + ((cell.1 : α) + half) * raster.cell,
    raster.top + ((cell.2 : α) + half) * raster.cell⟩

end Raster

/-- The cells that a box overlaps, by their first and last columns and rows. -/
structure CellRange where
  /-- First and last column. -/
  columns : Int × Int
  /-- First and last row. -/
  rows : Int × Int

/-- Whether a range holds a cell. -/
def CellRange.holds (range : CellRange) (cell : GridCell) : Bool :=
  range.columns.1 ≤ cell.1 && cell.1 ≤ range.columns.2 && range.rows.1 ≤ cell.2 &&
    cell.2 ≤ range.rows.2

/-- The cells of a grid that a box overlaps. -/
@[specialize] def blockedRange (raster : Raster α) (box : Box α) :
    Except ArithmeticError CellRange := do
  let left ← Raster.index raster.left raster.cell box.left
  let right ← Raster.index raster.left raster.cell box.right
  let top ← Raster.index raster.top raster.cell box.top
  let bottom ← Raster.index raster.top raster.cell box.bottom
  return {
    columns := (Max.max 0 left, Min.min (raster.size.columns - 1) right)
    rows := (Max.max 0 top, Min.min (raster.size.rows - 1) bottom) }

/-- The polyline through the centres of the cells of a way, its first point being the start and the
end being added. -/
@[specialize] def wayPoints (raster : Raster α) (p₁ p₂ : Point α) : List GridCell → List (Point α)
  | [] => [p₁, p₂]
  | _ :: cells => p₁ :: cells.map raster.center ++ [p₂]

/-- A route between two points through the free cells of the grid around them. -/
@[specialize] def gridRoute (options : GridOptions α) (p₁ p₂ : Point α)
    (obstacles : List (Obstacle α)) : Except ArithmeticError (Option (List (Point α))) := do
  let raster ← Raster.around options p₁ p₂
  let start ← raster.cellOf p₁
  let goal ← raster.cellOf p₂
  let ranges ← obstacles.mapM fun obstacle => blockedRange raster obstacle.toBox
  let blocked (cell : GridCell) : Bool := cell != start && ranges.any (·.holds cell)
  return (shortestWay raster.size blocked start goal).map fun cells =>
    simplify (wayPoints raster p₁ p₂ cells)

end Routing
end ClusterDiagram
