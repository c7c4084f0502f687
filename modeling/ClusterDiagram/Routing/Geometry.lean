import ClusterDiagram.Placement

/-!
# Segments, boxes and polylines

Obstacles are boxes around icons. A segment touches a box when one of its ends lies inside or when
it meets one of the four sides. Parallel segments count as apart. A polyline is clear when none of
its segments touches an obstacle.
-/

namespace ClusterDiagram
namespace Routing

/-- Half the extent of an icon. -/
def iconHalf : Nat := 18

/-- Clearance kept around an icon. -/
def routePadding : Nat := 6

/-- A box by its four sides. -/
structure Box (α : Type) where
  /-- Left side. -/
  left : α
  /-- Right side. -/
  right : α
  /-- Top side. -/
  top : α
  /-- Bottom side. -/
  bottom : α
  deriving DecidableEq, Repr, Inhabited

/-- The padded box of an icon. -/
structure Obstacle (α : Type) extends Box α where
  /-- Id of the node. -/
  id : String
  /-- Centre of the icon. -/
  center : Point α
  deriving DecidableEq, Repr

variable {α : Type} [Scalar α]

/-- The padded box of a node. -/
def obstacle (padding : α) (node : Node α) : Obstacle α :=
  let half := (iconHalf : α) + padding
  { left := node.x - half
    right := node.x + half
    top := node.y - half
    bottom := node.y + half
    id := node.id
    center := ⟨node.x, node.y⟩ }

/-- The quotient of one by a power of ten. -/
@[specialize] def tolerance (places : Nat) : α :=
  ((1 : Nat) : α) / ((Nat.pow 10 places : Nat) : α)

/-- Twice the signed area of the triangle of three points. -/
@[specialize] def orientation (o a b : Point α) : α :=
  (a.x - o.x) * (b.y - o.y) - (a.y - o.y) * (b.x - o.x)

/-- Whether two segments share a point, parallel ones never doing so: the ends of each lie on
opposite sides of the other's line or on it. -/
@[specialize] def segmentsIntersect (p₁ p₂ p₃ p₄ : Point α) : Bool :=
  let dx₁ := p₂.x - p₁.x
  let dy₁ := p₂.y - p₁.y
  let dx₂ := p₄.x - p₃.x
  let dy₂ := p₄.y - p₃.y
  if Scalar.abs (dx₁ * dy₂ - dy₁ * dx₂) < tolerance 10 then false
  else
    decide (orientation p₁ p₂ p₃ * orientation p₁ p₂ p₄ ≤ ((0 : Nat) : α)) &&
      decide (orientation p₃ p₄ p₁ * orientation p₃ p₄ p₂ ≤ ((0 : Nat) : α))

/-- Whether a box holds a point, its border included. -/
@[specialize] def Box.holds (box : Box α) (p : Point α) : Bool :=
  decide (box.left ≤ p.x) && decide (p.x ≤ box.right) && decide (box.top ≤ p.y) &&
    decide (p.y ≤ box.bottom)

/-- Whether a segment touches a box. -/
@[specialize] def Box.touches (box : Box α) (p₁ p₂ : Point α) : Bool :=
  if Scalar.max p₁.x p₂.x < box.left then false
  else if box.right < Scalar.min p₁.x p₂.x then false
  else if Scalar.max p₁.y p₂.y < box.top then false
  else if box.bottom < Scalar.min p₁.y p₂.y then false
  else if box.holds p₁ || box.holds p₂ then true
  else
    let topLeft : Point α := ⟨box.left, box.top⟩
    let topRight : Point α := ⟨box.right, box.top⟩
    let bottomLeft : Point α := ⟨box.left, box.bottom⟩
    let bottomRight : Point α := ⟨box.right, box.bottom⟩
    segmentsIntersect p₁ p₂ topLeft bottomLeft || segmentsIntersect p₁ p₂ topRight bottomRight ||
      segmentsIntersect p₁ p₂ topLeft topRight || segmentsIntersect p₁ p₂ bottomLeft bottomRight

/-- The segments of a polyline. -/
def segments (path : List (Point α)) : List (Point α × Point α) :=
  path.zip path.tail

/-- Whether some segment of a polyline touches a box. -/
@[specialize] def Box.meets (box : Box α) (path : List (Point α)) : Bool :=
  (segments path).any fun segment => box.touches segment.1 segment.2

/-- Whether a polyline touches no obstacle. -/
@[specialize] def isClear (path : List (Point α)) (obstacles : List (Obstacle α)) : Bool :=
  obstacles.all fun obstacle => !obstacle.toBox.meets path

/-- The distance of two points. -/
@[specialize] def distance (p₁ p₂ : Point α) : α :=
  Scalar.hypot (p₂.x - p₁.x) (p₂.y - p₁.y)

/-- The length of a polyline. -/
@[specialize] def pathLength (path : List (Point α)) : α :=
  Scalar.sum ((segments path).map fun segment => distance segment.1 segment.2)

/-- Whether two points are nearly the same in both coordinates. -/
@[specialize] def isNear (p₁ p₂ : Point α) : Bool :=
  decide (Scalar.abs (p₁.x - p₂.x) < tolerance 9) && decide (Scalar.abs (p₁.y - p₂.y) < tolerance 9)

/-- Drop every point that is near the last one kept. -/
@[specialize] def dropNear : Point α → List (Point α) → List (Point α)
  | _, [] => []
  | last, p :: path => if isNear last p then dropNear last path else p :: dropNear p path

/-- Drop consecutive repetitions of a point. A single point is kept twice. -/
@[specialize] def dedupe : List (Point α) → List (Point α)
  | [] => []
  | p :: path =>
      match dropNear p path with
      | [] => [p, p]
      | rest => p :: rest

/-- Drop every point that lies on a line with the last one kept and its successor, but keep the
last point. -/
@[specialize] def dropStraight : Point α → List (Point α) → List (Point α)
  | _, [] => []
  | _, [p] => [p]
  | a, b :: c :: path =>
      let cross := (b.x - a.x) * (c.y - b.y) - (b.y - a.y) * (c.x - b.x)
      if Scalar.abs cross < tolerance 6 then dropStraight a (c :: path)
      else b :: dropStraight b (c :: path)

/-- Reduce a polyline to its corners. -/
@[specialize] def simplify (path : List (Point α)) : List (Point α) :=
  match dedupe path with
  | [] => []
  | p :: rest => p :: dropStraight p rest

end Routing
end ClusterDiagram
