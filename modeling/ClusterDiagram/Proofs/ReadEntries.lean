import ClusterDiagram.Proofs.ReadingOrder
import ClusterDiagram.Proofs.TableRows

/-!
# Clusters and nodes that are read back

The lines of a diagram may nest its clusters as they like, as when parents lead in circles. They are
read all the same as clusters with the same labels and as nodes that lie in the same ones; where the
diagram is valid the parents are the same as well.
-/

namespace ClusterDiagram

variable {α : Type}

/-- A node by its texts. -/
structure NodeEntry where
  /-- Label of the node. -/
  label : String
  /-- Alias of the node. -/
  name : Option String
  /-- Label of the cluster that it lies in. -/
  cluster : Option String
  deriving DecidableEq, Repr

/-- What a node without id and place tells, given the labels of the clusters. -/
def NodeEntry.ofContent (clusterLabel : Option String → String) (content : Node Unit) :
    NodeEntry where
  label := content.label
  name := content.name
  cluster := content.cluster.map fun id => clusterLabel (some id)

/-- A node of a diagram by its texts. -/
def Graph.nodeEntry (graph : Graph α) (node : Node α) : NodeEntry where
  label := node.label
  name := node.name
  cluster := node.cluster.map fun id => graph.clusterLabel (some id)

/-- A cluster that is copied under a new id is found there with its label. -/
theorem Graph.clusterLabel_rename {copy : Graph α} (distinct : (copy.clusters.map (·.id)).Nodup)
    {originals : List (Cluster α)} {rename : Renaming}
    (ids : copy.clusters.map (·.id) = originals.map fun cluster => rename.cluster cluster.id)
    (labels : copy.clusters.map (·.label) = originals.map (·.label)) {cluster : Cluster α}
    (cluster_mem : cluster ∈ originals) :
    copy.clusterLabel (some (rename.cluster cluster.id)) = cluster.label := by
  have pairs : originals.map (fun cluster => (rename.cluster cluster.id, cluster.label)) =
      copy.clusters.map fun cluster => (cluster.id, cluster.label) := by
    rw [← List.zip_map', ← List.zip_map', ids, labels]
  obtain ⟨image, image_mem, image_eq⟩ := exists_mem_of_map_eq pairs cluster_mem
  rw [Prod.mk.injEq] at image_eq
  rw [← image_eq.1, clusterLabel_of_mem distinct image_mem, image_eq.2]

namespace Prompt

variable [Scalar α] {context : Context α} {graph : Graph α}

section Entries

variable (clusterIds : (graph.clusters.map (·.id)).Nodup)
  (memberships : ∀ node ∈ graph.nodes, ∀ id, node.cluster = some id →
    id ∈ graph.clusters.map (·.id))

include clusterIds memberships

/-- The clusters keep their labels, and the nodes their texts and the labels of their clusters. -/
theorem declare_entries (nodeIds : (graph.nodes.map (·.id)).Nodup) {drawn : Nat} {after : Draft α}
    (done : (declarations graph).foldlM (Draft.declare context) { drawn } = .ok after)
    (distinct : (after.graph.clusters.map (·.id)).Nodup) :
    (after.graph.clusters.map (·.label)).Perm (graph.clusters.map (·.label)) ∧
      (after.graph.nodes.map after.graph.nodeEntry).Perm (graph.nodes.map graph.nodeEntry) := by
  obtain ⟨-, labels, rename, ids, contents⟩ := declare_contents clusterIds memberships done
  have clusters_perm : (inWritingOrder graph).clusters.Perm graph.clusters :=
    clusterOrder_perm clusterIds
  have nodes_perm := nodes_inWritingOrder_perm clusterIds nodeIds
  have entries_eq : after.graph.nodes.map after.graph.nodeEntry =
      (inWritingOrder graph).nodes.map graph.nodeEntry := by
    have images := congrArg (List.map (NodeEntry.ofContent after.graph.clusterLabel)) contents
    rw [List.map_map, List.map_map] at images
    refine images.trans (List.map_congr_left fun node node_mem => ?_)
    cases cluster_eq : node.cluster with
    | none => simp [NodeEntry.ofContent, contentUnder, contentIn, Graph.nodeEntry, cluster_eq]
    | some id =>
        obtain ⟨cluster, cluster_mem, rfl⟩ :=
          List.mem_map.mp (memberships node (nodes_perm.mem_iff.mp node_mem) id cluster_eq)
        have copied := Graph.clusterLabel_rename distinct ids labels
          (clusters_perm.mem_iff.mpr cluster_mem)
        have original := Graph.clusterLabel_of_mem clusterIds cluster_mem
        simp [NodeEntry.ofContent, contentUnder, contentIn, Graph.nodeEntry, cluster_eq, copied,
          original]
  rw [labels, entries_eq]
  exact ⟨clusters_perm.map _, nodes_perm.map _⟩

/-- A text with the cluster and node lines of a diagram is read on every canvas of finite width, with
ids that are distinct and no edges. -/
theorem read_declarations (nodeIds : (graph.nodes.map (·.id)).Nodup)
    (finite : Placement.FiniteWidth context.canvasWidth) {text : String}
    (said : Statement.ofText text = declarations graph) (drawn : Nat) :
    ∃ (copy : Graph α) (next : Nat), read context text drawn = .ok (copy, next) ∧
      ((copy.clusters.map (·.id)).Nodup ∧ (copy.nodes.map (·.id)).Nodup ∧ copy.edges = []) ∧
      (copy.clusters.map (·.label)).Perm (graph.clusters.map (·.label)) ∧
      (copy.nodes.map copy.nodeEntry).Perm (graph.nodes.map graph.nodeEntry) ∧
      (graph.Valid → ∃ rename : Renaming, copy.clusters.map Cluster.unplaced =
        (inWritingOrder graph).clusters.map rename.ofCluster) := by
  obtain ⟨⟨copy, next⟩, done⟩ := read_total finite text drawn
  have no_edge_lines : Statement.ofText text =
      declarations graph ++ ([] : List Edge).map (edgeStatement graph.nodes) := by
    rw [said, List.map_nil, List.append_nil]
  obtain ⟨declared, draft, identified, declarations_done, no_edges, rfl⟩ :=
    declared_of_read no_edge_lines done
  obtain rfl : declared = draft := Except.ok.inj no_edges
  obtain ⟨edges_eq, -, rename, ids, -⟩ :=
    declare_contents clusterIds memberships declarations_done
  obtain ⟨labels, entries⟩ :=
    declare_entries clusterIds memberships nodeIds declarations_done identified.clusters.1
  exact ⟨declared.graph, next, done, ⟨identified.clusters.1, identified.nodes.1, edges_eq⟩, labels,
    entries, fun valid => ⟨rename, declare_parents valid declarations_done ids⟩⟩

end Entries

end Prompt
end ClusterDiagram
