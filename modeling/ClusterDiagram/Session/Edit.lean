import ClusterDiagram.Prompt.Writer
import ClusterDiagram.Session.Basic

/-!
# Edits

Edits change the diagram of a session directly. Those that change what the prompt says write it anew;
moving nodes and clusters leaves it alone. An edit that is refused changes nothing.
-/

namespace ClusterDiagram
namespace Session

variable {α : Type} [Scalar α]

/-! ## Looking up -/

/-- The first node with an id. -/
def requireNode (session : Session α) (id : String) : Except SessionError (Node α) :=
  match session.graph.nodes.find? fun node => node.id == id with
  | some node => .ok node
  | none => .error (.unknownNode id)

/-- Fail unless there is a cluster with an id. -/
def requireCluster (session : Session α) (id : String) : Except SessionError Unit :=
  if Cluster.isListed session.graph.clusters id then .ok () else .error (.unknownCluster id)

/-! ## Changing -/

/-- Replace the diagram and write its prompt. -/
def commit (session : Session α) (graph : Graph α) : Session α :=
  { session with graph, text := Prompt.write graph }

/-- Replace the nodes. -/
def withNodes (session : Session α) (nodes : List (Node α)) : Graph α :=
  { session.graph with nodes }

/-- Change every node with an id. -/
def changeNode (session : Session α) (id : String) (change : Node α → Node α) : Graph α :=
  session.withNodes (session.graph.nodes.map fun node =>
    if node.id == id then change node else node)

/-- Draw a token and give an id that is not taken. -/
def newId (context : Context α) (session : Session α) (base : String) (taken : List String) :
    String × Session α :=
  (FreshId.fresh (base ++ "-" ++ context.token session.drawn) taken,
    { session with drawn := session.drawn + 1 })

/-- Take over a saved diagram; without a text, its prompt is written. -/
def load (session : Session α) (graph : Graph α) (text : Option String) : Session α :=
  match text with
  | some text => { session with graph, text }
  | none => session.commit graph

/-! ## Layout -/

/-- Lay the clusters out again. -/
def relayout (context : Context α) (session : Session α) (anchor : Option (Layout.Anchor α)) :
    Except SessionError (Session α) := do
  return { session with graph := ← arrange context session.graph anchor }

/-- Lay the clusters out again, one of them in the cell nearest to a point. -/
def dropCluster (context : Context α) (session : Session α) (id : String) (point : Point α) :
    Except SessionError (Session α) := do
  session.requireCluster id
  relayout context session (some ⟨id, point.x, point.y⟩)

/-- Move a cluster so that its outline has its corner at a point; its members move along. -/
def moveCluster (context : Context α) (session : Session α) (id : String) (corner : Point α) :
    Except SessionError (Session α) := do
  session.requireCluster id
  let outlines ← ofArithmetic (Outline.ofClusters session.graph.clusters session.graph.nodes
    context.settings.canvas.width)
  match outlines.lookup id with
  | none => throw (.unknownCluster id)
  | some outline =>
      let dx := corner.x - outline.x
      let dy := corner.y - outline.y
      let clusters := session.graph.clusters.map fun cluster =>
        if cluster.id == id then { cluster with x := some corner.x, y := some corner.y } else cluster
      let nodes := session.graph.nodes.map fun node =>
        if node.cluster == some id then { node with x := node.x + dx, y := node.y + dy } else node
      return { session with graph := { session.graph with clusters, nodes } }

/-! ## Nodes -/

/-- Width of the drawing area when it is not the session's own. -/
def standardWidth : Nat := 2000

/-- The innermost cluster at a point, outlines being those of the standard drawing area. -/
def clusterAt? (session : Session α) (point : Point α) : Except SessionError (Option String) := do
  let outlines ← ofArithmetic (Outline.ofClusters session.graph.clusters session.graph.nodes
    (standardWidth : α))
  return Outline.clusterAt? point session.graph.clusters outlines

/-- Add a node at a point, in the innermost cluster there. -/
def addNode (context : Context α) (session : Session α) (label : String) (point : Point α)
    (name : Option String) : Except SessionError (Session α × Node α) := do
  let cluster ← session.clusterAt? point
  let (id, session) := newId context session (Text.slug (identityKey label name))
    (session.graph.nodes.map (·.id))
  let node : Node α :=
    { id, label, name := Text.nonempty name, x := point.x, y := point.y, cluster }
  return (session.commit (session.withNodes (session.graph.nodes ++ [node])), node)

/-- Move a node to a point. -/
def moveNode (session : Session α) (id : String) (point : Point α) :
    Except SessionError (Session α) := do
  let _ ← session.requireNode id
  let graph := session.changeNode id fun node => { node with x := point.x, y := point.y }
  return { session with graph }

/-- Settle the cluster of a moved node: the innermost one at its place, the node itself left out. -/
def finalizeNodeMove (context : Context α) (session : Session α) (id : String) :
    Except SessionError (Session α × Option String) := do
  let node ← session.requireNode id
  let others := session.graph.nodes.filter fun other => other.id != id
  let outlines ← ofArithmetic (Outline.ofClusters session.graph.clusters others
    context.settings.canvas.width)
  let cluster := Outline.clusterAt? ⟨node.x, node.y⟩ session.graph.clusters outlines
  return (session.commit (session.changeNode id fun node => { node with cluster }), cluster)

/-- Remove a node and the edges at it. -/
def deleteNode (session : Session α) (id : String) : Except SessionError (Session α) := do
  let _ ← session.requireNode id
  return session.commit
    { session.graph with
      nodes := session.graph.nodes.filter fun node => node.id != id
      edges := session.graph.edges.filter fun edge => edge.source != id && edge.target != id }

/-- Set the alias of a node, or clear it. -/
def renameNode (session : Session α) (id : String) (name : Option String) :
    Except SessionError (Session α) := do
  let _ ← session.requireNode id
  let shown := Text.nonempty (name.map Text.trim)
  return session.commit (session.changeNode id fun node => { node with name := shown })

/-! ## Edges and clusters -/

/-- Connect two nodes. -/
def addEdge (context : Context α) (session : Session α) (source target arrow : String)
    (label : Option String) : Except SessionError (Session α × Edge) := do
  let _ ← session.requireNode source
  let _ ← session.requireNode target
  let (id, session) := newId context session ("e-" ++ source ++ "-" ++ target)
    (session.graph.edges.map (·.id))
  let edge : Edge :=
    { id, source, target, label := Text.nonempty label, style := EdgeStyle.ofText arrow }
  return (session.commit { session.graph with edges := session.graph.edges ++ [edge] }, edge)

/-- Remove an edge. -/
def deleteEdge (session : Session α) (id : String) : Except SessionError (Session α) :=
  if session.graph.edges.any fun edge => edge.id == id then
    .ok (session.commit
      { session.graph with edges := session.graph.edges.filter fun edge => edge.id != id })
  else .error (.unknownEdge id)

/-- Add an empty cluster at a free place and lay all clusters out. -/
def addCluster (context : Context α) (session : Session α) (label : String) :
    Except SessionError (Session α × Cluster α) := do
  let label := Text.trim label
  if label.isEmpty then throw .emptyLabel
  let clusters := session.graph.clusters
  let id := FreshId.fresh (Text.slug label) (clusters.map (·.id))
  let corner ← ofArithmetic (Placement.emptySlot (Placement.emptyWidth : α)
    (Placement.emptyHeight : α) session.graph.nodes clusters context.settings.canvas.width)
  let cluster : Cluster α := { id, label, x := some corner.x, y := some corner.y }
  let graph ← arrange context { session.graph with clusters := clusters ++ [cluster] } none
  return (session.commit graph,
    (graph.clusters.find? fun placed => placed.id == id).getD cluster)

end Session
end ClusterDiagram
