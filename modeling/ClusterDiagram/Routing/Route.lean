import ClusterDiagram.Assoc
import ClusterDiagram.Routing.Decoration
import ClusterDiagram.Routing.Grid

/-!
# Routes

An edge runs straight when nothing is in its way. Otherwise detours are tried for every pair of
attachment points, the cheapest kind first: shifted straight lines, one bend, several bends, curves.
Each pair offers its shortest clear detour of the first kind that has one, and the shortest of all
wins. The grid is searched only when no pair offers anything, and a straight line through the
obstacles is the last resort.
-/

namespace ClusterDiagram
namespace Routing

/-- How a route was found. -/
inductive Strategy where
  /-- The straight line is clear. -/
  | straight
  /-- A loop above a node. -/
  | selfLoop
  /-- A straight line between other attachment points. -/
  | shiftedStraight
  /-- A line with one bend. -/
  | lShape
  /-- A line with several bends. -/
  | detour
  /-- A curve. -/
  | curve
  /-- A way through the grid. -/
  | grid
  /-- The straight line, although it is not clear. -/
  | direct
  deriving DecidableEq, Repr, Inhabited

/-- The name of a strategy. -/
def Strategy.name : Strategy → String
  | .straight => "straight"
  | .selfLoop => "self-loop"
  | .shiftedStraight => "shifted-straight"
  | .lShape => "l-shape"
  | .detour => "detour"
  | .curve => "curve"
  | .grid => "grid"
  | .direct => "direct"

/-- The polyline of an edge. -/
structure Route (α : Type) where
  /-- Its points, at least two. -/
  points : List (Point α)
  /-- Whether it was led around obstacles. -/
  routed : Bool
  /-- How it was found. -/
  strategy : Strategy
  deriving DecidableEq, Repr

variable {α : Type} [Scalar α]

/-- The place of the label of a route. -/
def Route.labelPoint (route : Route α) : Point α :=
  Routing.labelPoint (labelOffset : α) route.points

/-- The points around a node at which a line may end: toward the other node, at the four sides and
at the four corners. -/
def attachments (node other : Node α) (radius : α) : List (Point α) :=
  let heading :=
    if other.x == node.x && other.y == node.y then
      Scalar.heading ((0 : Nat) : α) ((0 : Nat) : α)
    else Scalar.heading (other.x - node.x) (other.y - node.y)
  [⟨node.x + heading.1 * radius, node.y + heading.2 * radius⟩,
    ⟨node.x + radius, node.y⟩, ⟨node.x - radius, node.y⟩,
    ⟨node.x, node.y + radius⟩, ⟨node.x, node.y - radius⟩,
    ⟨node.x + radius, node.y + radius⟩, ⟨node.x + radius, node.y - radius⟩,
    ⟨node.x - radius, node.y + radius⟩, ⟨node.x - radius, node.y - radius⟩]

/-- The straight line. -/
def straightPaths (p₁ p₂ : Point α) : List (List (Point α)) :=
  [[p₁, p₂]]

/-- The two lines with one right angle. -/
def bentPaths (p₁ p₂ : Point α) : List (List (Point α)) :=
  [[p₁, ⟨p₂.x, p₁.y⟩, p₂], [p₁, ⟨p₁.x, p₂.y⟩, p₂]]

/-- The detours at an offset: around both ends, with the crossing leg shifted, and past the end. -/
@[specialize] def detoursAt (p₁ p₂ : Point α) (offset : α) : List (List (Point α)) :=
  let two : α := ((2 : Nat) : α)
  let middleX := (p₁.x + p₂.x) / two
  let middleY := (p₁.y + p₂.y) / two
  let top := Scalar.min p₁.y p₂.y - offset
  let bottom := Scalar.max p₁.y p₂.y + offset
  let left := Scalar.min p₁.x p₂.x - offset
  let right := Scalar.max p₁.x p₂.x + offset
  [[p₁, ⟨p₁.x, top⟩, ⟨p₂.x, top⟩, p₂],
    [p₁, ⟨p₁.x, bottom⟩, ⟨p₂.x, bottom⟩, p₂],
    [p₁, ⟨left, p₁.y⟩, ⟨left, p₂.y⟩, p₂],
    [p₁, ⟨right, p₁.y⟩, ⟨right, p₂.y⟩, p₂],
    [p₁, ⟨middleX + offset, p₁.y⟩, ⟨middleX + offset, p₂.y⟩, p₂],
    [p₁, ⟨p₁.x, middleY + offset⟩, ⟨p₂.x, middleY + offset⟩, p₂],
    [p₁, ⟨middleX + -offset, p₁.y⟩, ⟨middleX + -offset, p₂.y⟩, p₂],
    [p₁, ⟨p₁.x, middleY + -offset⟩, ⟨p₂.x, middleY + -offset⟩, p₂],
    [p₁, ⟨p₁.x, top⟩, ⟨right, top⟩, ⟨right, p₂.y⟩, p₂],
    [p₁, ⟨p₁.x, bottom⟩, ⟨right, bottom⟩, ⟨right, p₂.y⟩, p₂],
    [p₁, ⟨p₁.x, top⟩, ⟨left, top⟩, ⟨left, p₂.y⟩, p₂],
    [p₁, ⟨p₁.x, bottom⟩, ⟨left, bottom⟩, ⟨left, p₂.y⟩, p₂],
    [p₁, ⟨left, p₁.y⟩, ⟨left, top⟩, ⟨p₂.x, top⟩, p₂],
    [p₁, ⟨right, p₁.y⟩, ⟨right, top⟩, ⟨p₂.x, top⟩, p₂],
    [p₁, ⟨left, p₁.y⟩, ⟨left, bottom⟩, ⟨p₂.x, bottom⟩, p₂],
    [p₁, ⟨right, p₁.y⟩, ⟨right, bottom⟩, ⟨p₂.x, bottom⟩, p₂]]

/-- The usual offsets of detours. -/
def detourOffsets : List α :=
  [30, 60, 90, 120, 180, 240].map fun offset : Nat => (offset : α)

/-- The lines through the middle with two right angles, then the detours at each offset. -/
@[specialize] def detourPaths (offsets : List α) (p₁ p₂ : Point α) : List (List (Point α)) :=
  let two : α := ((2 : Nat) : α)
  let middleX := (p₁.x + p₂.x) / two
  let middleY := (p₁.y + p₂.y) / two
  [p₁, ⟨middleX, p₁.y⟩, ⟨middleX, p₂.y⟩, p₂] :: [p₁, ⟨p₁.x, middleY⟩, ⟨p₂.x, middleY⟩, p₂] ::
    offsets.flatMap (detoursAt p₁ p₂)

/-- The usual bends of curves, as parts of the distance. -/
def curveBends : List α :=
  let quarter : α := ((1 : Nat) : α) / ((4 : Nat) : α)
  let half : α := ((1 : Nat) : α) / ((2 : Nat) : α)
  let most : α := ((4 : Nat) : α) / ((5 : Nat) : α)
  [quarter, -quarter, half, -half, most, -most]

/-- The usual number of segments of a curve. -/
def curveSamples : Nat := 16

/-- A point of the quadratic curve with a control point. -/
@[specialize] def curvePoint (p₁ control p₂ : Point α) (t : α) : Point α :=
  let one : α := ((1 : Nat) : α)
  let a := (one - t) * (one - t)
  let b := ((2 : Nat) : α) * (one - t) * t
  let c := t * t
  ⟨a * p₁.x + b * control.x + c * p₂.x, a * p₁.y + b * control.y + c * p₂.y⟩

/-- The curves that bow to either side, cut into segments. -/
@[specialize] def curvePaths (bends : List α) (samples : Nat) (p₁ p₂ : Point α) :
    List (List (Point α)) :=
  let two : α := ((2 : Nat) : α)
  let dx := p₂.x - p₁.x
  let dy := p₂.y - p₁.y
  let length := Scalar.hypot dx dy
  if Scalar.isZero length then []
  else
    let acrossX := -dy / length
    let acrossY := dx / length
    let middleX := (p₁.x + p₂.x) / two
    let middleY := (p₁.y + p₂.y) / two
    bends.map fun bend =>
      let control : Point α :=
        ⟨middleX + acrossX * length * bend, middleY + acrossY * length * bend⟩
      (List.range (samples + 1)).map fun index : Nat =>
        curvePoint p₁ control p₂ ((index : α) / (samples : α))

/-- The kinds of detours, the cheapest first. -/
def tiers : List (Strategy × (Point α → Point α → List (List (Point α)))) :=
  [(.shiftedStraight, straightPaths), (.lShape, bentPaths), (.detour, detourPaths detourOffsets),
    (.curve, curvePaths curveBends curveSamples)]

/-- The shortest of some polylines that touches no obstacle, the first one among equals. -/
@[specialize] def shortestClear? (candidates : List (List (Point α)))
    (obstacles : List (Obstacle α)) : Option (List (Point α)) :=
  let ranked := (candidates.map fun candidate =>
    let path := dedupe candidate
    (pathLength path, path)).mergeSort fun a b => !decide (b.1 < a.1)
  (ranked.find? fun entry => isClear entry.2 obstacles).map (·.2)

/-- The detour between two points: the shortest clear one of the first kind that has one. -/
@[specialize] def detour? (obstacles : List (Obstacle α)) (p₁ p₂ : Point α) :
    Option (List (Point α) × Strategy) :=
  tiers.findSome? fun tier =>
    (shortestClear? (tier.2 p₁ p₂) obstacles).map fun path => (path, tier.1)

/-- A route with its length. -/
structure Candidate (α : Type) where
  /-- The polyline. -/
  path : List (Point α)
  /-- Its length. -/
  length : α
  /-- How it was found. -/
  strategy : Strategy

/-- The better of the best route so far and the detour of a pair of points. A pair whose distance
is not below the best length cannot be better. -/
@[specialize] def improve (obstacles : List (Obstacle α)) (best : Option (Candidate α))
    (pair : Point α × Point α) : Option (Candidate α) :=
  let chord := distance pair.1 pair.2
  let hopeless := match best with
    | none => Scalar.isInfinite chord
    | some best => decide (best.length ≤ chord)
  if hopeless then best
  else
    match detour? obstacles pair.1 pair.2 with
    | none => best
    | some (path, strategy) =>
        let length := pathLength path
        if Scalar.isBelow (best.map (·.length)) length then some ⟨path, length, strategy⟩ else best

/-- The better of the best route so far and the way of a pair of points through the grid. -/
@[specialize] def improveByGrid (obstacles : List (Obstacle α)) (best : Option (Candidate α))
    (pair : Point α × Point α) : Except ArithmeticError (Option (Candidate α)) := do
  match ← gridRoute GridOptions.standard pair.1 pair.2 obstacles with
  | none => return best
  | some path =>
      let path := dedupe path
      let length := pathLength path
      return if Scalar.isBelow (best.map (·.length)) length && isClear path obstacles then
          some ⟨path, length, .grid⟩
        else best

/-- All pairs of an element of each list, the first list's order leading. -/
def allPairs {β : Type} (starts ends : List β) : List (β × β) :=
  starts.flatMap fun a => ends.map fun b => (a, b)

/-- The loop above a node whose edge returns to it. -/
def selfLoop (node : Node α) (radius : α) (obstacles : List (Obstacle α)) : Route α :=
  let rise := node.y - radius - ((24 : Nat) : α)
  let points : List (Point α) :=
    [⟨node.x + radius, node.y⟩, ⟨node.x + radius, rise⟩, ⟨node.x - radius, rise⟩,
      ⟨node.x - radius, node.y⟩]
  ⟨points, isClear points obstacles, .selfLoop⟩

/-- The obstacles of an edge: every node that is none of its ends. -/
def obstaclesOf (nodes : List (Node α)) (source target : String) : List (Obstacle α) :=
  (nodes.filter fun node => node.id != source && node.id != target).map
    (obstacle (routePadding : α))

/-- The best way around the obstacles. -/
def wayAround (source target : Node α) (style : EdgeStyle) (obstacles : List (Obstacle α)) :
    Except ArithmeticError (Option (Candidate α)) :=
  let starts := attachments source target (style.startRadius : α)
  let ends := attachments target source (style.endRadius : α)
  match (allPairs starts ends).foldl (improve obstacles) none with
  | some best => .ok (some best)
  | none => (allPairs (starts.take 5) (ends.take 5)).foldlM (improveByGrid obstacles) none

/-- The route of an edge between two nodes of a diagram. -/
def routeEdge (source target : Node α) (nodes : List (Node α)) (style : EdgeStyle) :
    Except ArithmeticError (Route α) :=
  let obstacles := obstaclesOf nodes source.id target.id
  if source.id = target.id then .ok (selfLoop source (style.startRadius : α) obstacles)
  else
    let line := endpoints source target style
    let points := [line.1, line.2]
    if isClear points obstacles then .ok ⟨points, false, .straight⟩
    else do
      match ← wayAround source target style obstacles with
      | some best => return ⟨best.path, true, best.strategy⟩
      | none => return ⟨points, false, .direct⟩

/-- The route of every edge whose ends exist, by the id of the edge. -/
def routeAll (graph : Graph α) : Except ArithmeticError (List (String × Route α)) :=
  graph.edges.foldlM (fun routes edge =>
    match Node.lastWith? edge.source graph.nodes, Node.lastWith? edge.target graph.nodes with
    | some source, some target => do
        return Assoc.put edge.id (← routeEdge source target graph.nodes edge.style) routes
    | _, _ => return routes) []

end Routing
end ClusterDiagram
