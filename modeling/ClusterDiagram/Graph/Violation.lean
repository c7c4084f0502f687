import ClusterDiagram.Graph.Basic

/-!
# Violations

A diagram is valid when ids are unique, every reference leads to an entity of the diagram and parent
links form no cycle. Every breach is described on its own; a cycle is listed once, from its least id
on and from parents to children.
-/

namespace ClusterDiagram

/-- A breach of the invariants of a diagram. -/
inductive Violation where
  /-- Several clusters have one id. -/
  | repeatedCluster (id : String)
  /-- Several nodes have one id. -/
  | repeatedNode (id : String)
  /-- The parent of a cluster is not a cluster of the diagram. -/
  | unknownParent (cluster parent : String)
  /-- A cluster is its own parent. -/
  | ownParent (cluster : String)
  /-- Several clusters are nested in each other, each in the one before it. -/
  | parentCycle (clusters : List String)
  /-- A node lies in a cluster that is not one of the diagram. -/
  | unknownCluster (node cluster : String)
  /-- An edge ends at a node that is not one of the diagram. -/
  | unknownNode (edge node : String)
  deriving DecidableEq, Repr

/-- The text of a violation. -/
def Violation.message : Violation → String
  | .repeatedCluster id => s!"duplicate cluster id '{id}'"
  | .repeatedNode id => s!"duplicate node id '{id}'"
  | .unknownParent cluster parent => s!"cluster '{cluster}' has unknown parent '{parent}'"
  | .ownParent cluster => s!"cluster '{cluster}' is its own parent"
  | .parentCycle clusters => "cluster parent cycle: " ++ " -> ".intercalate clusters
  | .unknownCluster node cluster => s!"node '{node}' references unknown cluster '{cluster}'"
  | .unknownNode edge node => s!"edge '{edge}' references unknown node '{node}'"

namespace ClusterTree

variable {α : Type}

/-- The distinct links from parents to children, between different clusters of the list. -/
def links (clusters : List (Cluster α)) : List (String × String) :=
  (clusters.filterMap fun cluster =>
    match cluster.parent with
    | some parent =>
        if Cluster.isListed clusters parent && parent != cluster.id then some (parent, cluster.id)
        else none
    | none => none).eraseDups

/-- The cycles that close the path from its head down to `start`, all other ids being new and
greater than `start`. The fuel bounds the length of the path. -/
def closePath (links : List (String × String)) (start : String) :
    Nat → List String → List (List String)
  | 0, _ => []
  | _, [] => []
  | fuel + 1, head :: below =>
      let parents := (links.filter fun link => link.2 == head).map (·.1)
      parents.flatMap fun parent =>
        if parent = start then [start :: (head :: below).dropLast]
        else if start < parent && !(head :: below).contains parent then
          closePath links start fuel (parent :: head :: below)
        else []

/-- Every cycle of links through more than one id, once, from its least id on. -/
def cycles (clusters : List (Cluster α)) : List (List String) :=
  let links := links clusters
  let starts := (clusters.map (·.id)).eraseDups
  starts.flatMap fun start => closePath links start (clusters.length + 1) [start]

end ClusterTree

namespace Graph

variable {α : Type}

/-- The ids that occur more than once, in order of their first occurrence. -/
def repeated (ids : List String) : List String :=
  ids.eraseDups.filter fun id => 1 < ids.count id

/-- What is wrong with the parent of a cluster. -/
def parentViolations (clusters : List (Cluster α)) (cluster : Cluster α) : List Violation :=
  match cluster.parent with
  | none => []
  | some parent =>
      if parent = cluster.id then [.ownParent cluster.id]
      else if Cluster.isListed clusters parent then []
      else [.unknownParent cluster.id parent]

/-- The cycles of parent links, in the order of their texts. -/
def cycleViolations (clusters : List (Cluster α)) : List Violation :=
  ((ClusterTree.cycles clusters).map Violation.parentCycle).mergeSort fun first second =>
    !decide (second.message < first.message)

/-- What is wrong with the cluster of a node. -/
def clusterViolations (clusters : List (Cluster α)) (node : Node α) : List Violation :=
  match node.cluster with
  | none => []
  | some cluster =>
      if Cluster.isListed clusters cluster then [] else [.unknownCluster node.id cluster]

/-- What is wrong with the ends of an edge. -/
def endViolations (nodes : List (Node α)) (edge : Edge) : List Violation :=
  ([edge.source, edge.target].filter fun id => !nodes.any fun node => node.id == id).map
    (Violation.unknownNode edge.id)

/-- Everything that is wrong with a diagram. -/
def violations (graph : Graph α) : List Violation :=
  (repeated (graph.clusters.map (·.id))).map .repeatedCluster ++
    (repeated (graph.nodes.map (·.id))).map .repeatedNode ++
    graph.clusters.flatMap (parentViolations graph.clusters) ++
    cycleViolations graph.clusters ++
    graph.nodes.flatMap (clusterViolations graph.clusters) ++
    graph.edges.flatMap (endViolations graph.nodes)

/-- Whether nothing is wrong with a diagram. -/
def isValid (graph : Graph α) : Bool :=
  graph.violations.isEmpty

end Graph

end ClusterDiagram
