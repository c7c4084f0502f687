import ClusterDiagram.Assoc
import ClusterDiagram.FreshId
import ClusterDiagram.Graph.Basic

/-!
# Merging clusters

A cluster that was read anew takes over the id and the anchor of the first existing cluster with
its label, unless an earlier one did. All ids are made distinct, references follow, and a cluster
whose parents lead back to itself is detached.
-/

namespace ClusterDiagram
namespace Merge

variable {α : Type}

/-- Pair every new entity with the first existing one of its key, each existing id being claimed
once. -/
def claim {β : Type} (key id : β → String) (existing : List β) :
    List String → List β → List (Option β)
  | _, [] => []
  | claimed, entity :: entities =>
      match existing.find? fun other => key other == key entity with
      | some found =>
          if claimed.contains (id found) then none :: claim key id existing claimed entities
          else some found :: claim key id existing (id found :: claimed) entities
      | none => none :: claim key id existing claimed entities

/-- Give every claimed entity its inherited id; `used` are the ids given before. -/
def inheritIds : List String → List (Option (Cluster α)) → List (Option String) × List String
  | used, [] => ([], used)
  | used, none :: claims =>
      let (ids, used) := inheritIds used claims
      (none :: ids, used)
  | used, some found :: claims =>
      let id := FreshId.fresh found.id used
      let (ids, used) := inheritIds (id :: used) claims
      (some id :: ids, used)

/-- Give the entities that inherit nothing an id made from their own. -/
def completeIds : List String → List (Option String × Cluster α) → List String
  | _, [] => []
  | used, (some id, _) :: rest => id :: completeIds used rest
  | used, (none, cluster) :: rest =>
      let id := FreshId.fresh cluster.id used
      id :: completeIds (id :: used) rest

/-- Whether the parents of a cluster, from `current` on, lead back to it. The fuel bounds the
number of links that are followed. -/
def leadsTo (parents : List (String × Option String)) (start : String) :
    Nat → Option String → Bool
  | 0, _ => false
  | _, none => false
  | fuel + 1, some current =>
      match parents.lookup current with
      | none => false
      | some next => current == start || leadsTo parents start fuel next

/-- Detach each cluster whose parents lead back to it, in order, each cut counting for those that
follow. -/
def detachFrom : List (String × Option String) → List (Cluster α) → List (Cluster α)
  | _, [] => []
  | parents, cluster :: clusters =>
      let parent := (parents.lookup cluster.id).join
      if leadsTo parents cluster.id (parents.length + 1) parent then
        { cluster with parent := none } ::
          detachFrom (Assoc.put cluster.id none parents) clusters
      else { cluster with parent } :: detachFrom parents clusters

/-- Detach every cluster that closes a cycle of parents. -/
def breakCycles (clusters : List (Cluster α)) : List (Cluster α) :=
  detachFrom (Assoc.ofEntries (clusters.map fun cluster => (cluster.id, cluster.parent))) clusters

/-- What merging clusters gives. -/
structure Clusters (α : Type) where
  /-- The merged clusters, in the order of the new ones. -/
  clusters : List (Cluster α)
  /-- The final id for each new id; a repeated one stands for its first cluster. -/
  ids : List (String × String)

/-- Final id of a reference to a new cluster; an empty reference is none. -/
def Clusters.final? (merged : Clusters α) (reference : Option String) : Option String :=
  (Text.nonempty reference).bind fun id => merged.ids.lookup id

/-- A new cluster with its final id and parent, and with the anchor it inherits. -/
def mergedCluster (ids : List (String × String)) (cluster : Cluster α) (id : String)
    (found : Option (Cluster α)) : Cluster α where
  id := id
  label := cluster.label
  parent := (Text.nonempty cluster.parent).bind fun id => ids.lookup id
  x := match found with
    | some found => found.x
    | none => cluster.x
  y := match found with
    | some found => found.y
    | none => cluster.y

/-- Merge new clusters with existing ones. -/
def mergeClusters (parsed existing : List (Cluster α)) : Clusters α :=
  let claims := claim Cluster.key Cluster.id existing [] parsed
  let (inherited, used) := inheritIds [] claims
  let final := completeIds used (inherited.zip parsed)
  let ids := (parsed.zip final).foldl
    (fun ids entry => Assoc.putNew entry.1.id entry.2 ids) []
  let merged := (parsed.zip (final.zip claims)).map fun entry =>
    mergedCluster ids entry.1 entry.2.1 entry.2.2
  { clusters := breakCycles merged, ids }

end Merge
end ClusterDiagram
