import ClusterDiagram.Proofs.Renaming
import ClusterDiagram.Proofs.Writable

/-!
# Copies are written alike

The text of a diagram does not depend on places, on the ids of its entities or on the order in which
clusters of different parents and nodes of different clusters are listed.
-/

namespace ClusterDiagram
namespace Prompt

variable {α : Type}

section Copy

variable {graph copy : Graph α} {rename : Renaming} (valid : graph.Valid)
  (copied : (inWritingOrder graph).CopiedBy rename copy)

include valid copied

/-! ## Clusters -/

section Clusters

variable (clusterIds : (copy.clusters.map (·.id)).Nodup)

include clusterIds

theorem cluster_injective {id other : String} (id_mem : id ∈ graph.clusters.map (·.id))
    (other_mem : other ∈ graph.clusters.map (·.id)) :
    rename.cluster id = rename.cluster other ↔ id = other := by
  refine ⟨fun same => ?_, congrArg rename.cluster⟩
  obtain ⟨cluster, cluster_mem, rfl⟩ := List.mem_map.mp id_mem
  obtain ⟨another, another_mem, rfl⟩ := List.mem_map.mp other_mem
  have whole := (depthFirst_clusterOrder valid).2
  rw [copied.map_id_clusters] at clusterIds
  exact congrArg Cluster.id (List.inj_on_of_nodup_map clusterIds (whole.mem_iff.mpr cluster_mem)
    (whole.mem_iff.mpr another_mem) same)

omit clusterIds in
theorem exists_copies : ∃ f : Cluster α → Cluster α,
    copy.clusters = (inWritingOrder graph).clusters.map f ∧
      ∀ cluster ∈ graph.clusters, (f cluster).unplaced = rename.ofCluster cluster := by
  have whole := (depthFirst_clusterOrder valid).2
  obtain ⟨f, copies, copy_eq⟩ := copied.exists_clusters_eq_map
    (whole.nodup_iff.mpr (List.Nodup.of_map _ valid.clusterIds))
  exact ⟨f, copies, fun cluster cluster_mem => copy_eq cluster (whole.mem_iff.mpr cluster_mem)⟩

omit clusterIds in
theorem isListed_copy {id : String} (id_mem : id ∈ graph.clusters.map (·.id)) :
    Cluster.isListed copy.clusters (rename.cluster id) = true := by
  obtain ⟨cluster, cluster_mem, rfl⟩ := List.mem_map.mp id_mem
  have whole := (depthFirst_clusterOrder valid).2
  obtain ⟨other, other_mem, other_eq⟩ :=
    exists_mem_of_map_eq copied.clusters.symm (whole.mem_iff.mpr cluster_mem)
  have id_eq : other.id = rename.cluster cluster.id := congrArg Cluster.id other_eq
  exact List.any_eq_true.mpr ⟨other, other_mem, beq_iff_eq.mpr id_eq⟩

theorem hasParent_copy {cluster another : Cluster α} (cluster_mem : cluster ∈ graph.clusters)
    (another_eq : another.unplaced = rename.ofCluster cluster) :
    hasParent copy.clusters another = true ↔ cluster.parent ≠ none := by
  have id_eq : another.id = rename.cluster cluster.id := congrArg Cluster.id another_eq
  have parent_eq : another.parent = cluster.parent.map rename.cluster :=
    congrArg Cluster.parent another_eq
  rw [hasParent, parent_eq, id_eq]
  cases own_parent : cluster.parent with
  | none => simp [Cluster.refersTo]
  | some parent =>
      obtain ⟨parent_mem, apart⟩ := valid.parents cluster cluster_mem parent own_parent
      have listed := isListed_copy valid copied parent_mem
      have different : rename.cluster parent ≠ rename.cluster cluster.id := fun same =>
        apart ((cluster_injective valid copied clusterIds parent_mem
          (List.mem_map_of_mem cluster_mem)).mp same)
      simp [Cluster.refersTo, listed, different]

omit copied clusterIds in
theorem filter_parent_copy {f : Cluster α → Cluster α}
    (copies : copy.clusters = (inWritingOrder graph).clusters.map f) {holds : Cluster α → Bool}
    {parent : Option String}
    (agree : ∀ cluster ∈ graph.clusters, holds (f cluster) = true ↔ cluster.parent = parent) :
    copy.clusters.filter holds =
      ((inWritingOrder graph).clusters.filter fun cluster => cluster.parent == parent).map f := by
  have whole := (depthFirst_clusterOrder valid).2
  rw [copies, List.filter_map]
  congr 1
  apply List.filter_congr
  intro cluster cluster_mem
  rw [Bool.eq_iff_iff, Function.comp_apply, agree cluster (whole.mem_iff.mp cluster_mem),
    beq_iff_eq]

/-- The children of a copy are the copies of the children. -/
theorem childrenOf_copy {f : Cluster α → Cluster α}
    (copies : copy.clusters = (inWritingOrder graph).clusters.map f)
    (copy_eq : ∀ cluster ∈ graph.clusters, (f cluster).unplaced = rename.ofCluster cluster)
    {entry : Cluster α × Nat} (entry_mem : entry ∈ clusterOrder graph) :
    childrenOf copy.clusters (f entry.1).id = (childrenOf graph.clusters entry.1.id).map f := by
  obtain ⟨depthFirst, whole⟩ := depthFirst_clusterOrder valid
  have above_mem := whole.mem_iff.mp (List.mem_map_of_mem entry_mem)
  have distinct := (whole.map (·.id)).nodup_iff.mpr valid.clusterIds
  have id_eq : (f entry.1).id = rename.cluster entry.1.id :=
    congrArg Cluster.id (copy_eq entry.1 above_mem)
  rw [← filter_parent_children valid depthFirst (by rwa [inWritingOrder, List.map_map] at distinct)
      (fun root root_mem _ _ same => by
        rw [((mem_rootsOf valid).mp root_mem).2] at same
        cases same) entry entry_mem]
  refine filter_parent_copy valid copies fun cluster cluster_mem => ?_
  have parent_eq : (f cluster).parent = cluster.parent.map rename.cluster :=
    congrArg Cluster.parent (copy_eq cluster cluster_mem)
  rw [Bool.and_eq_true,
    hasParent_copy valid copied clusterIds cluster_mem (copy_eq cluster cluster_mem),
    beq_iff_eq, parent_eq, id_eq]
  cases own_parent : cluster.parent with
  | none => simp
  | some parent =>
      obtain ⟨parent_mem, -⟩ := valid.parents cluster cluster_mem parent own_parent
      simpa using
        cluster_injective valid copied clusterIds parent_mem (List.mem_map_of_mem above_mem)

theorem rootsOf_copy {f : Cluster α → Cluster α}
    (copies : copy.clusters = (inWritingOrder graph).clusters.map f)
    (copy_eq : ∀ cluster ∈ graph.clusters, (f cluster).unplaced = rename.ofCluster cluster) :
    rootsOf copy.clusters = (rootsOf graph.clusters).map f := by
  obtain ⟨depthFirst, -⟩ := depthFirst_clusterOrder valid
  have roots_parent : ∀ root ∈ rootsOf graph.clusters, root.parent = none :=
    fun root root_mem => ((mem_rootsOf valid).mp root_mem).2
  rw [← filter_parent_first valid depthFirst roots_parent (by simp)]
  refine filter_parent_copy valid copies fun cluster cluster_mem => ?_
  have has := hasParent_copy valid copied clusterIds cluster_mem (copy_eq cluster cluster_mem)
  rw [Bool.not_eq_true', ← Bool.not_eq_true, has, not_not]

/-- The order of the copies is the copied order. -/
theorem clusterOrder_copy {f : Cluster α → Cluster α}
    (copies : copy.clusters = (inWritingOrder graph).clusters.map f)
    (copy_eq : ∀ cluster ∈ graph.clusters, (f cluster).unplaced = rename.ofCluster cluster) :
    clusterOrder copy = (clusterOrder graph).map fun entry => (f entry.1, entry.2) := by
  obtain ⟨depthFirst, -⟩ := depthFirst_clusterOrder valid
  have copied_order : DepthFirst (·.id) (childrenOf copy.clusters) 0
      ((rootsOf graph.clusters).map f)
      ((clusterOrder graph).map fun entry => (f entry.1, entry.2)) :=
    depthFirst.map f fun entry entry_mem =>
      childrenOf_copy valid copied clusterIds copies copy_eq entry_mem
  rw [← rootsOf_copy valid copied clusterIds copies copy_eq] at copied_order
  refine forestOrder_eq copied_order ?_ clusterIds
  rw [copies, inWritingOrder, List.map_map, List.map_map]
  exact List.Perm.refl _

end Clusters

/-! ## Nodes -/

/-- The node in the copy, and whether it floats. -/
theorem refersTo_copy {node another : Node α} (node_mem : node ∈ graph.nodes)
    (another_eq : another.unplaced = rename.ofNode node) :
    Cluster.refersTo copy.clusters another.cluster = true ↔ node.cluster ≠ none := by
  have cluster_eq : another.cluster = node.cluster.map rename.cluster :=
    congrArg Node.cluster another_eq
  rw [cluster_eq]
  cases own_cluster : node.cluster with
  | none => simp [Cluster.refersTo]
  | some id =>
      have listed := isListed_copy valid copied (valid.memberships node node_mem id own_cluster)
      simp [Cluster.refersTo, listed]

/-- The floating nodes of a copy are the copies of the floating nodes. -/
theorem floating_copy :
    (floating copy).map Node.unplaced = (floating graph).map rename.ofNode := by
  rw [← filter_cluster_floating valid, floating]
  apply filter_of_map_eq copied.nodes
  intro another _ node node_mem another_eq
  have node_mem := (perm_nodes_inWritingOrder valid).mem_iff.mp node_mem
  have refers := refersTo_copy valid copied node_mem another_eq
  rw [Bool.eq_iff_iff, Bool.not_eq_true', ← Bool.not_eq_true, refers, not_not, beq_iff_eq]

/-- The members of the copy of a cluster are the copies of its members. -/
theorem members_copy (clusterIds : (copy.clusters.map (·.id)).Nodup) {entry : Cluster α × Nat}
    (entry_mem : entry ∈ clusterOrder graph) :
    (copy.members (rename.cluster entry.1.id)).map Node.unplaced =
      (graph.members entry.1.id).map rename.ofNode := by
  have whole := (depthFirst_clusterOrder valid).2
  have cluster_mem := whole.mem_iff.mp (List.mem_map_of_mem entry_mem)
  rw [← filter_cluster_members valid entry_mem, Graph.members]
  apply filter_of_map_eq copied.nodes
  intro another _ node node_mem another_eq
  have node_mem := (perm_nodes_inWritingOrder valid).mem_iff.mp node_mem
  have cluster_eq : another.cluster = node.cluster.map rename.cluster :=
    congrArg Node.cluster another_eq
  rw [Bool.eq_iff_iff, beq_iff_eq, beq_iff_eq, cluster_eq]
  cases own_cluster : node.cluster with
  | none => simp
  | some id =>
      have id_mem := valid.memberships node node_mem id own_cluster
      simpa using cluster_injective valid copied clusterIds id_mem (List.mem_map_of_mem cluster_mem)

omit valid copied in
theorem nodeTexts_of_map_eq {copies nodes : List (Node α)}
    (same : copies.map Node.unplaced = nodes.map rename.ofNode) (depth : Nat) :
    copies.map (fun node => nodeText node.label node.name depth) =
      nodes.map fun node => nodeText node.label node.name depth := by
  have texts := congrArg (List.map fun node : Node Unit => nodeText node.label node.name depth) same
  rwa [List.map_map, List.map_map] at texts

/-! ## Edges -/

/-- An id of a node leads to the same reference in the copy. -/
theorem lastWith?_copy (nodeIds : (copy.nodes.map (·.id)).Nodup) {id : String}
    (id_mem : id ∈ graph.nodes.map (·.id)) :
    ∃ node another, Node.lastWith? id graph.nodes = some node ∧
      Node.lastWith? (rename.node id) copy.nodes = some another ∧
        another.reference = node.reference := by
  obtain ⟨node, node_mem, rfl⟩ := List.mem_map.mp id_mem
  have written := (perm_nodes_inWritingOrder valid).mem_iff.mpr node_mem
  obtain ⟨another, another_mem, another_eq⟩ := exists_mem_of_map_eq copied.nodes.symm written
  have id_eq : another.id = rename.node node.id := congrArg Node.id another_eq
  refine ⟨node, another, Node.lastWith?_eq_some valid.nodeIds node_mem, ?_,
    congrArg (fun node : Node Unit => node.reference) another_eq⟩
  rw [← id_eq, Node.lastWith?_eq_some nodeIds another_mem]

theorem edgeLines_copy (nodeIds : (copy.nodes.map (·.id)).Nodup) :
    copy.edges.filterMap (edgeLine? copy.nodes) =
      graph.edges.filterMap (edgeLine? graph.nodes) := by
  have unnamed : copy.edges.filterMap (edgeLine? copy.nodes) =
      (copy.edges.map Edge.unnamed).filterMap (edgeLine? copy.nodes) := by
    rw [List.filterMap_map]
    rfl
  rw [unnamed, copied.edges, List.filterMap_map]
  apply List.filterMap_congr
  intro edge edge_mem
  obtain ⟨source_mem, target_mem⟩ := valid.endpoints edge edge_mem
  obtain ⟨source, source', found, found', same⟩ := lastWith?_copy valid copied nodeIds source_mem
  obtain ⟨target, target', reached, reached', same'⟩ :=
    lastWith?_copy valid copied nodeIds target_mem
  simp only [Function.comp_apply, edgeLine?, Renaming.ofEdge, found, found', reached, reached',
    same,
    same']

/-- A copy is written as the diagram itself. -/
theorem write_copy (clusterIds : (copy.clusters.map (·.id)).Nodup)
    (nodeIds : (copy.nodes.map (·.id)).Nodup) : write copy = write graph := by
  obtain ⟨f, copies, copy_eq⟩ := exists_copies valid copied
  have order_eq := clusterOrder_copy valid copied clusterIds copies copy_eq
  have whole := (depthFirst_clusterOrder valid).2
  have floating_lines := nodeTexts_of_map_eq (floating_copy valid copied) 0
  have block_lines : (clusterOrder copy).flatMap (fun entry => clusterText entry.1.label entry.2 ::
      (copy.members entry.1.id).map fun node => nodeText node.label node.name (entry.2 + 1)) =
      (clusterOrder graph).flatMap fun entry => clusterText entry.1.label entry.2 ::
        (graph.members entry.1.id).map fun node => nodeText node.label node.name (entry.2 + 1) := by
    rw [order_eq, List.flatMap_map]
    apply List.flatMap_congr
    intro entry entry_mem
    have unplaced_eq := copy_eq entry.1 (whole.mem_iff.mp (List.mem_map_of_mem entry_mem))
    have id_eq : (f entry.1).id = rename.cluster entry.1.id := congrArg Cluster.id unplaced_eq
    have label_eq : (f entry.1).label = entry.1.label :=
      congrArg (fun cluster : Cluster Unit => cluster.label) unplaced_eq
    rw [id_eq, label_eq,
      nodeTexts_of_map_eq (members_copy valid copied clusterIds entry_mem) (entry.2 + 1)]
  rw [write, write, lines_eq, lines_eq, floating_lines, block_lines,
    edgeLines_copy valid copied nodeIds]

end Copy

end Prompt
end ClusterDiagram
