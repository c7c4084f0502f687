import Std.Data.HashMap
import ClusterDiagram.Routing.Frontier

/-!
# Shortest ways on a grid

The search expands cells by the number of steps so far plus the least number of steps that remain,
until the goal comes up. Steps go to the four neighbours that lie in the grid and are not blocked;
the goal may be entered even when it is.
-/

namespace ClusterDiagram
namespace Routing

/-- The extent of a grid. -/
structure GridSize where
  /-- Number of columns. -/
  columns : Int
  /-- Number of rows. -/
  rows : Int
  deriving DecidableEq, Repr

/-- Whether a cell lies in the grid. -/
def GridSize.holds (size : GridSize) (cell : GridCell) : Bool :=
  0 ≤ cell.1 && cell.1 < size.columns && 0 ≤ cell.2 && cell.2 < size.rows

/-- The least number of steps between two cells. -/
def stepsBetween (a b : GridCell) : Nat :=
  (a.1 - b.1).natAbs + (a.2 - b.2).natAbs

/-- The neighbours of a cell in the order in which they are tried. -/
def neighbours (cell : GridCell) : List GridCell :=
  [(cell.1 + 1, cell.2), (cell.1 - 1, cell.2), (cell.1, cell.2 + 1), (cell.1, cell.2 - 1)]

/-- What is known of a cell that was reached. -/
structure Reached where
  /-- Least number of steps found. -/
  cost : Nat
  /-- The cell before, absent at the start. -/
  previous : Option GridCell
  deriving Inhabited

/-- The state of a search. -/
structure Search where
  /-- Cells that wait to be expanded. -/
  frontier : Frontier
  /-- Cells that were reached. -/
  reached : Std.HashMap GridCell Reached
  /-- Number of cells that were put on the frontier. -/
  count : Nat

namespace Search

/-- The state at the start. -/
def begin (start goal : GridCell) : Search where
  frontier := Frontier.empty.insert ⟨stepsBetween start goal, 0, 0, start⟩
  reached := (∅ : Std.HashMap GridCell Reached).insert start ⟨0, none⟩
  count := 1

/-- Reach a neighbour by one more step, unless a way as short is known. -/
def reach (goal current : GridCell) (cost : Nat) (search : Search) (next : GridCell) : Search :=
  let known : Bool := match search.reached[next]? with
    | some found => found.cost ≤ cost + 1
    | none => false
  if known then search
  else
    { frontier := search.frontier.insert
        ⟨cost + 1 + stepsBetween next goal, cost + 1, search.count, next⟩
      reached := search.reached.insert next ⟨cost + 1, some current⟩
      count := search.count + 1 }

/-- Reach every open neighbour of a cell. -/
def expand (size : GridSize) (blocked : GridCell → Bool) (goal : GridCell) (entry : Waiting)
    (search : Search) : Search :=
  ((neighbours entry.cell).filter fun next =>
    size.holds next && (next == goal || !blocked next)).foldl
      (reach goal entry.cell entry.cost) search

/-- The way to a cell, from the start on, put before `path`. The fuel bounds its length. -/
def wayTo (search : Search) : Nat → GridCell → List GridCell → List GridCell
  | 0, cell, path => cell :: path
  | fuel + 1, cell, path =>
      match search.reached[cell]?.bind (·.previous) with
      | none => cell :: path
      | some previous => wayTo search fuel previous (cell :: path)

/-- Expand cells until the goal comes up. The fuel bounds the number of cells taken off the
frontier. -/
def run (size : GridSize) (blocked : GridCell → Bool) (goal : GridCell) :
    Nat → Search → Option (List GridCell)
  | 0, _ => none
  | fuel + 1, search =>
      match search.frontier.pop? with
      | none => none
      | some (entry, frontier) =>
          let search := { search with frontier }
          if entry.cell == goal then some (search.wayTo entry.cost entry.cell [])
          else
            let outdated : Bool := match search.reached[entry.cell]? with
              | some found => found.cost < entry.cost
              | none => false
            if outdated then run size blocked goal fuel search
            else run size blocked goal fuel (search.expand size blocked goal entry)

end Search

/-- A shortest way between two cells. -/
def shortestWay (size : GridSize) (blocked : GridCell → Bool) (start goal : GridCell) :
    Option (List GridCell) :=
  Search.run size blocked goal (4 * (size.columns * size.rows).toNat + 8)
    (Search.begin start goal)

end Routing
end ClusterDiagram
