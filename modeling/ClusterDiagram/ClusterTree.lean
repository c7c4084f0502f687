import ClusterDiagram.Assoc
import ClusterDiagram.Graph.Basic

/-!
# The tree of clusters

The depth of a cluster is the number of its ancestors. A chain of parents ends at an unknown id and
before a cluster that was already passed, so that every chain is finite.
-/

namespace ClusterDiagram
namespace ClusterTree

variable {α : Type}

/-- The parent of each id; of clusters with one id the last counts. -/
def parents (clusters : List (Cluster α)) : List (String × Option String) :=
  Assoc.ofEntries (clusters.map fun cluster => (cluster.id, cluster.parent))

/-- The ids met on the way up from `current`, `seen` being those already passed. The fuel bounds
the length of the way. -/
def climb (parents : List (String × Option String)) :
    Nat → List String → Option String → List String
  | 0, _, _ => []
  | _, _, none => []
  | fuel + 1, seen, some current =>
      match parents.lookup current with
      | none => []
      | some next =>
          if seen.contains current then []
          else current :: climb parents fuel (current :: seen) next

/-- The ancestors of an id, the nearest first. -/
def ancestors (parents : List (String × Option String)) (id : String) : List String :=
  climb parents (parents.length + 1) [id] (parents.lookup id).join

/-- The number of ancestors of an id. -/
def depth (parents : List (String × Option String)) (id : String) : Nat :=
  (ancestors parents id).length

/-- The depth of every cluster. -/
def depths (clusters : List (Cluster α)) : List (String × Nat) :=
  let parents := parents clusters
  Assoc.ofEntries (clusters.map fun cluster => (cluster.id, depth parents cluster.id))

end ClusterTree
end ClusterDiagram
