import ClusterDiagram.Prompt.Writer
import ClusterDiagram.Tables.Rows

/-!
# Prompts from rows

The rows of two tables are written as a prompt. Clusters are those named in the column of clusters, in
order of first mention; a cluster hangs below the first parent given for it, other than itself, when
that parent is a cluster too. Nodes without a cluster come first, then the clusters depth first, each
followed by its nodes, then the edges.
-/

namespace ClusterDiagram
namespace NodeRow

/-- The labels of the clusters, in order of first mention. -/
def clusters (rows : List NodeRow) : List String :=
  ((rows.map (·.cluster)).filter fun cluster => !cluster.isEmpty).eraseDups

/-- The first parent given for a cluster. -/
def givenParent? (rows : List NodeRow) (cluster : String) : Option String :=
  (rows.find? fun row => row.cluster == cluster && !row.parentCluster.isEmpty &&
    row.parentCluster != cluster).map (·.parentCluster)

/-- The clusters whose first given parent is a cluster. -/
def childrenOf (rows : List NodeRow) (parent : String) : List String :=
  (clusters rows).filter fun cluster => givenParent? rows cluster == some parent

/-- The clusters that hang below no other. -/
def roots (rows : List NodeRow) : List String :=
  let known := clusters rows
  known.filter fun cluster => !(givenParent? rows cluster).any known.contains

/-- The node lines of a cluster; those outside every cluster for an empty label. -/
def lines (rows : List NodeRow) (cluster : String) (depth : Nat) : List String :=
  (rows.filter fun row => row.cluster == cluster && !row.node.isEmpty).map fun row =>
    Prompt.nodeText row.node (some row.name) depth

/-- The lines of clusters and nodes. -/
def promptLines (rows : List NodeRow) : List String :=
  lines rows "" 0 ++
    (Prompt.forestOrder id (childrenOf rows) (clusters rows) (roots rows)).flatMap
      fun (cluster, depth) => Prompt.clusterText cluster depth :: lines rows cluster (depth + 1)

end NodeRow

namespace EdgeRow

/-- The attributes of an edge that are given. -/
def attributes (row : EdgeRow) : List String :=
  (if row.style.isEmpty then [] else ["arrow=" ++ row.style]) ++
    if row.label.isEmpty then [] else ["label=" ++ Attributes.quote row.label]

/-- The line of an edge, when both of its ends are given. -/
def promptLine? (row : EdgeRow) : Option String :=
  if row.source.isEmpty || row.destination.isEmpty then none
  else
    let attributes := row.attributes
    some (row.source ++ " -> " ++ row.destination ++
      if attributes.isEmpty then "" else " [" ++ ", ".intercalate attributes ++ "]")

end EdgeRow

namespace Table

/-- The prompt of some rows. -/
def promptOfRows (nodes : List NodeRow) (edges : List EdgeRow) : String :=
  "\n".intercalate (NodeRow.promptLines nodes ++ edges.filterMap EdgeRow.promptLine?)

/-- The prompt of a table of nodes and, where there is one, a table of edges. -/
def prompt (nodes : Table) (edges : Option Table) : Except TableError String := do
  let nodeRows ← NodeRow.ofTable nodes
  match edges with
  | none => return promptOfRows nodeRows []
  | some edges => return promptOfRows nodeRows (← EdgeRow.ofTable edges)

end Table
end ClusterDiagram
