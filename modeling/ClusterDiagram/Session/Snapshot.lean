import ClusterDiagram.Routing.Route
import ClusterDiagram.Session.Edit

/-!
# Snapshots

A snapshot holds everything a viewer shows of a session: the diagram, the routes of its edges, the
frame around it and the prompt.
-/

namespace ClusterDiagram

/-- What a viewer shows. -/
structure Snapshot (α : Type) where
  /-- The diagram. -/
  graph : Graph α
  /-- The route of each edge, by its id. -/
  routes : List (String × Routing.Route α)
  /-- The frame around the diagram. -/
  frame : Outline.Frame
  /-- The prompt. -/
  prompt : String

/-- The snapshot of a session. -/
def Session.snapshot {α : Type} [Scalar α] (session : Session α) :
    Except SessionError (Snapshot α) := do
  let graph := session.graph
  let routes ← ofArithmetic (Routing.routeAll graph)
  let outlines ← ofArithmetic (Outline.ofClusters graph.clusters graph.nodes (standardWidth : α))
  let frame ← ofArithmetic (Outline.frame graph.nodes outlines)
  return { graph, routes, frame, prompt := session.text }

namespace Routing

variable {α : Type} [Scalar α]

/-- Write a point. -/
def pointJson (point : Point α) : Json α :=
  .list [.real point.x, .real point.y]

/-- Write a route. -/
def Route.toJson (route : Route α) : Json α :=
  .object [("points", .list (route.points.map pointJson)), ("routed", .bool route.routed),
    ("strategy", .text route.strategy.name), ("label", pointJson route.labelPoint)]

/-- Write routes by the ids of their edges. -/
def routesJson (routes : List (String × Route α)) : Json α :=
  .object (routes.map fun (id, route) => (id, route.toJson))

end Routing

/-- Write a frame. -/
def Outline.Frame.toJson {α : Type} (frame : Outline.Frame) : Json α :=
  .object [("x", .int frame.x), ("y", .int frame.y), ("w", .int frame.w), ("h", .int frame.h)]

/-- The fields of a written snapshot. -/
def Snapshot.toFields {α : Type} [Scalar α] (snapshot : Snapshot α) : List (String × Json α) :=
  snapshot.graph.toFields ++
    [("routes", Routing.routesJson snapshot.routes), ("bounds", snapshot.frame.toJson),
      ("prompt", .text snapshot.prompt)]

end ClusterDiagram
