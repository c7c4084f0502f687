import ClusterDiagram.Merge.Clusters
import ClusterDiagram.Placement

/-!
# Merging diagrams

A diagram that was read anew decides what there is. What it shares with the existing diagram, by
alias or label, keeps its id and its position; new nodes are placed beside the members of their
cluster or in a free slot. Only the first new node of a key takes over the first existing one.
-/

namespace ClusterDiagram
namespace Merge

/-- Distance between the centres of neighbouring members of a cluster. -/
def memberStep : Nat := 120

variable {α : Type} [Scalar α]

/-- The rightmost of some nodes, the first one among equals. -/
def rightmost? : List (Node α) → Option (Node α)
  | [] => none
  | node :: nodes =>
      some (nodes.foldl (fun best next => if best.x < next.x then next else best) node)

/-- The place of a new node: right of the placed members of its cluster, else its own position,
else a free slot. -/
def newPlace (cluster : Option String) (parsed : Node α) (placed : List (Node α))
    (clusters : List (Cluster α)) (canvasWidth : α) : Except ArithmeticError (Point α) :=
  let peers := if cluster.isNone then []
    else placed.filter fun node => node.cluster == cluster && node.isPlaced
  match rightmost? peers with
  | some last => .ok ⟨last.x + (memberStep : α), last.y⟩
  | none =>
      if parsed.isPlaced then .ok ⟨parsed.x, parsed.y⟩
      else Placement.nodeSlot placed clusters canvasWidth

/-- Nodes while they are merged. -/
structure NodeDraft (α : Type) where
  /-- Nodes with their final ids and positions: those that inherit first, then the new ones. -/
  placed : List (Node α)
  /-- Ids given so far. -/
  used : List String
  /-- The final id for each new id, the latest first. -/
  ids : List (String × String)

/-- A new node that takes over the id and the position of an existing one. -/
def inheritNode (clusters : Clusters α) (parsed found : Node α) : Node α :=
  { parsed with id := found.id, x := found.x, y := found.y,
                cluster := clusters.final? parsed.cluster }

/-- The nodes that take over an existing one, in order. -/
def inheritNodes (clusters : Clusters α) (entries : List (Node α × Option (Node α))) :
    List (Node α × Node α) :=
  entries.filterMap fun entry => entry.2.map fun found =>
    (entry.1, inheritNode clusters entry.1 found)

/-- Merge the nodes that take over nothing; the result holds all nodes in the order of the new
diagram. `inherited` are those that take over one, not yet listed. -/
def placeNodes (clusters : Clusters α) (canvasWidth : α) :
    NodeDraft α → List (Node α × Option (Node α)) →
      Except ArithmeticError (List (Node α) × NodeDraft α)
  | draft, [] => .ok ([], draft)
  | draft, (parsed, some found) :: entries => do
      let (nodes, draft) ← placeNodes clusters canvasWidth draft entries
      return (inheritNode clusters parsed found :: nodes, draft)
  | draft, (parsed, none) :: entries => do
      let cluster := clusters.final? parsed.cluster
      let place ← newPlace cluster parsed draft.placed clusters.clusters canvasWidth
      let id := FreshId.fresh parsed.id draft.used
      let node : Node α := { parsed with id, x := place.x, y := place.y, cluster }
      let (nodes, draft) ← placeNodes clusters canvasWidth
        { placed := draft.placed ++ [node]
          used := id :: draft.used
          ids := (parsed.id, id) :: draft.ids } entries
      return (node :: nodes, draft)

/-- Merge the edges: those with an unknown end are dropped, ids are made distinct. -/
def mergeEdges (ids : List (String × String)) : List String → List Edge → List Edge
  | _, [] => []
  | used, edge :: edges =>
      match ids.lookup edge.source, ids.lookup edge.target with
      | some source, some target =>
          let id := FreshId.fresh edge.id used
          { edge with id, source, target } :: mergeEdges ids (id :: used) edges
      | _, _ => mergeEdges ids used edges

/-- Merge a new diagram with existing nodes and clusters. -/
def merge (parsed : Graph α) (nodes : List (Node α)) (clusters : List (Cluster α))
    (canvasWidth : α) : Except ArithmeticError (Graph α) := do
  let mergedClusters := mergeClusters parsed.clusters clusters
  let entries := parsed.nodes.zip (claim Node.key Node.id nodes [] parsed.nodes)
  let inherited := inheritNodes mergedClusters entries
  let (mergedNodes, draft) ← placeNodes mergedClusters canvasWidth
    { placed := inherited.map (·.2)
      used := inherited.map (·.2.id)
      ids := (inherited.map fun entry => (entry.1.id, entry.2.id)).reverse } entries
  return {
    clusters := mergedClusters.clusters
    nodes := mergedNodes
    edges := mergeEdges draft.ids [] parsed.edges }

end Merge
end ClusterDiagram
