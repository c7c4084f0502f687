/-!
# The frontier of a search

Cells that wait to be expanded are kept in a leftist heap. The next one has the least estimate of
the whole way, among equals the least way so far, among these the one that came first.
-/

namespace ClusterDiagram
namespace Routing

/-- A cell of the routing grid, by column and row. -/
abbrev GridCell := Int × Int

/-- A cell that waits to be expanded. -/
structure Waiting where
  /-- Number of steps to the cell and of the least steps from there. -/
  estimate : Nat
  /-- Number of steps to the cell. -/
  cost : Nat
  /-- Number of cells that came before. -/
  order : Nat
  /-- The cell. -/
  cell : GridCell
  deriving DecidableEq, Repr, Inhabited

/-- Whether a waiting cell goes before another. -/
def Waiting.before (a b : Waiting) : Bool :=
  a.estimate < b.estimate || (a.estimate == b.estimate &&
    (a.cost < b.cost || (a.cost == b.cost && a.order < b.order)))

/-- A heap of waiting cells, each going before those below it. -/
inductive Frontier where
  /-- No cell. -/
  | empty
  /-- A first cell over two heaps; the rank is the length of the shortest way down. -/
  | node (rank : Nat) (first : Waiting) (left right : Frontier)
  deriving Inhabited

namespace Frontier

/-- Length of the shortest way down. -/
def rank : Frontier → Nat
  | .empty => 0
  | .node rank _ _ _ => rank

/-- A heap over two others, the one of the higher rank on the left. -/
def make (first : Waiting) (a b : Frontier) : Frontier :=
  if b.rank ≤ a.rank then .node (b.rank + 1) first a b else .node (a.rank + 1) first b a

/-- The number of cells in a heap. -/
def size : Frontier → Nat
  | .empty => 0
  | .node _ _ left right => left.size + right.size + 1

/-- Join two heaps. -/
def merge : Frontier → Frontier → Frontier
  | .empty, b => b
  | a, .empty => a
  | .node rankA firstA leftA rightA, .node rankB firstB leftB rightB =>
      if firstB.before firstA then
        make firstB leftB (merge (.node rankA firstA leftA rightA) rightB)
      else make firstA leftA (merge rightA (.node rankB firstB leftB rightB))
termination_by a b => a.size + b.size
decreasing_by all_goals simp only [size]; omega

/-- Add a waiting cell. -/
def insert (entry : Waiting) (frontier : Frontier) : Frontier :=
  merge (.node 1 entry .empty .empty) frontier

/-- The first cell and the others. -/
def pop? : Frontier → Option (Waiting × Frontier)
  | .empty => none
  | .node _ first left right => some (first, merge left right)

end Frontier

end Routing
end ClusterDiagram
