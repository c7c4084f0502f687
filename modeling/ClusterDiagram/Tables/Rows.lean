import ClusterDiagram.Graph.Basic
import ClusterDiagram.Tables.Basic

/-!
# Node rows and edge rows

A diagram is tabulated as a table of nodes and a table of edges. A node row names the cluster that
holds the node and the parent of that cluster; a row without a node gives an empty cluster its place.
-/

namespace ClusterDiagram

/-- A row of the table of nodes. Empty cells are absent. -/
structure NodeRow where
  /-- Label of the node. -/
  node : String
  /-- Alias of the node. -/
  name : String
  /-- Label of the cluster that holds the node. -/
  cluster : String
  /-- Label of the parent of that cluster. -/
  parentCluster : String
  deriving DecidableEq, Repr

/-- A row of the table of edges. Empty cells are absent. -/
structure EdgeRow where
  /-- Reference of the node the edge leaves. -/
  source : String
  /-- Reference of the node the edge enters. -/
  destination : String
  /-- Name of the edge's style. -/
  style : String
  /-- Label of the edge. -/
  label : String
  deriving DecidableEq, Repr

namespace NodeRow

/-- Names of the columns. -/
def columns : List String := ["Node", "Name", "Cluster", "Parent cluster"]

/-- The cells of a row. -/
def cells (row : NodeRow) : List String := [row.node, row.name, row.cluster, row.parentCluster]

/-- The table of some rows. -/
def table (rows : List NodeRow) : Table where
  columns := columns
  rows := rows.map fun row => row.cells.map some

/-- Read the rows of a table. -/
def ofTable (table : Table) : Except TableError (List NodeRow) := do
  table.require "Node" ["Node"]
  let nodes ← table.cells "Node"
  let names ← table.cells "Name"
  let clusters ← table.cells "Cluster"
  let parents ← table.cells "Parent cluster"
  return (nodes.zip (names.zip (clusters.zip parents))).map fun (node, name, cluster, parent) =>
    ⟨node, name, cluster, parent⟩

end NodeRow

namespace EdgeRow

/-- Names of the columns. -/
def columns : List String := ["Source", "Destination", "Type", "Label"]

/-- The cells of a row. -/
def cells (row : EdgeRow) : List String := [row.source, row.destination, row.style, row.label]

/-- The table of some rows. -/
def table (rows : List EdgeRow) : Table where
  columns := columns
  rows := rows.map fun row => row.cells.map some

/-- Read the rows of a table. -/
def ofTable (table : Table) : Except TableError (List EdgeRow) := do
  table.require "Edge" ["Source", "Destination"]
  let sources ← table.cells "Source"
  let destinations ← table.cells "Destination"
  let styles ← table.cells "Type"
  let labels ← table.cells "Label"
  return (sources.zip (destinations.zip (styles.zip labels))).map
    fun (source, destination, style, label) => ⟨source, destination, style, label⟩

end EdgeRow

namespace Graph

variable {α : Type}

/-- The label of a cluster that is referred to, empty when there is none. -/
def clusterLabel (graph : Graph α) (reference : Option String) : String :=
  match reference.bind fun id => Cluster.lastWith? id graph.clusters with
  | some cluster => cluster.label
  | none => ""

/-- The rows of the nodes, then one row for each cluster that no node refers to. -/
def nodeRows (graph : Graph α) : List NodeRow :=
  let nodeRow (node : Node α) : NodeRow :=
    let cluster := node.cluster.bind fun id => Cluster.lastWith? id graph.clusters
    { node := node.label
      name := node.name.getD ""
      cluster := graph.clusterLabel node.cluster
      parentCluster := graph.clusterLabel (cluster.bind (·.parent)) }
  let empty := graph.clusters.filter fun cluster =>
    !graph.nodes.any fun node => node.cluster == some cluster.id
  graph.nodes.map nodeRow ++
    empty.map fun cluster => ⟨"", "", cluster.label, graph.clusterLabel cluster.parent⟩

/-- The rows of the edges between nodes of the diagram. -/
def edgeRows (graph : Graph α) : List EdgeRow :=
  graph.edges.filterMap fun edge =>
    match Node.lastWith? edge.source graph.nodes, Node.lastWith? edge.target graph.nodes with
    | some source, some target =>
        some ⟨source.reference, target.reference, edge.style.name, edge.label.getD ""⟩
    | _, _ => none

/-- The table of the nodes. -/
def nodeTable (graph : Graph α) : Table :=
  NodeRow.table graph.nodeRows

/-- The table of the edges. -/
def edgeTable (graph : Graph α) : Table :=
  EdgeRow.table graph.edgeRows

end Graph
end ClusterDiagram
