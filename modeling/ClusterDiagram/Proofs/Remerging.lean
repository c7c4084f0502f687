import ClusterDiagram.Proofs.MergeContent

/-!
# Merging a copy

A copy of a diagram takes over all that the diagram holds when it is merged with entities of
distinct keys, those of the diagram among them. What is merged is the diagram itself.
-/

namespace ClusterDiagram
namespace Merge

variable {α : Type}

/-! ## Claims -/

/-- Entities that have the keys of existing ones, which have distinct keys, claim these. -/
theorem claim_of_keys {β : Type} {key id : β → String} {existing : List β}
    (keys : (existing.map key).Nodup) {entities founds : List β} (within : founds ⊆ existing)
    (same : entities.map key = founds.map key) (ids : (founds.map id).Nodup)
    {claimed : List String} (unclaimed : ∀ found ∈ founds, id found ∉ claimed) :
    claim key id existing claimed entities = founds.map some := by
  induction founds generalizing entities claimed with
  | nil =>
      rw [List.map_nil, List.map_eq_nil_iff] at same
      rw [same]
      rfl
  | cons found founds induction =>
      cases entities with
      | nil => cases same
      | cons entity entities =>
          rw [List.map_cons, List.map_cons, List.cons.injEq] at same
          rw [List.cons_subset] at within
          rw [List.map_cons, List.nodup_cons] at ids
          rw [List.forall_mem_cons] at unclaimed
          have first := find?_key_eq_some keys within.1
          rw [← same.1] at first
          have rest_unclaimed := FreshId.unused_cons ids.1 unclaimed.2
          simp only [claim, first, List.contains_eq_mem, decide_eq_true_eq, if_neg unclaimed.1]
          rw [induction within.2 same.2 ids.2 rest_unclaimed, List.map_cons]

/-- Distinct ids that are not used are inherited as they are. -/
theorem inheritIds_of_nodup {used : List String} {founds : List (Cluster α)}
    (ids : (founds.map (·.id)).Nodup) (unused : ∀ found ∈ founds, found.id ∉ used) :
    (inheritIds used (founds.map some)).1 = (founds.map (·.id)).map some := by
  induction founds generalizing used with
  | nil => rfl
  | cons found founds induction =>
      rw [List.map_cons, List.nodup_cons] at ids
      rw [List.forall_mem_cons] at unused
      have rest_unused := FreshId.unused_cons ids.1 unused.2
      simp only [List.map_cons, inheritIds, FreshId.fresh_of_not_mem unused.1]
      rw [induction ids.2 rest_unused]

theorem completeIds_of_inherited (used : List String) {ids : List String}
    {clusters : List (Cluster α)} (length_eq : ids.length = clusters.length) :
    completeIds used ((ids.map some).zip clusters) = ids := by
  induction ids generalizing clusters with
  | nil => rfl
  | cons id ids induction =>
      cases clusters with
      | nil => cases length_eq
      | cons cluster clusters =>
          rw [List.map_cons, List.zip_cons_cons, completeIds, induction (Nat.succ.inj length_eq)]

/-! ## Clusters -/

section Copy

variable {graph copy : Graph α} {rename : Renaming} (valid : graph.Valid)
  (copied : graph.CopiedBy rename copy)

include valid copied

section Clusters

variable {existing : List (Cluster α)} (within : graph.clusters ⊆ existing)
  (clusterKeys : (existing.map Cluster.key).Nodup)

include within clusterKeys

theorem claim_clusters :
    claim Cluster.key Cluster.id existing [] copy.clusters = graph.clusters.map some := by
  have keys : copy.clusters.map Cluster.key = graph.clusters.map Cluster.key := by
    have same := congrArg (List.map Cluster.key) copied.clusters
    rwa [List.map_map, List.map_map] at same
  exact claim_of_keys clusterKeys within keys valid.clusterIds (by simp)

/-- Every cluster keeps its id. -/
theorem finalIds_of_copy :
    finalIds copy.clusters existing = graph.clusters.map (·.id) := by
  have length_eq := congrArg List.length copied.clusters
  rw [finalIds, claim_clusters valid copied within clusterKeys,
    inheritIds_of_nodup valid.clusterIds (by simp)]
  apply completeIds_of_inherited
  simpa using length_eq.symm

variable (clusterIds : (copy.clusters.map (·.id)).Nodup)

include clusterIds

theorem lookup_ids_of_copy {id : String} (id_mem : id ∈ graph.clusters.map (·.id)) :
    (mergeClusters copy.clusters existing).ids.lookup (rename.cluster id) = some id := by
  obtain ⟨cluster, cluster_mem, rfl⟩ := List.mem_map.mp id_mem
  rw [lookup_ids_mergeClusters, finalIds_of_copy valid copied within clusterKeys]
  rw [copied.map_id_clusters] at clusterIds ⊢
  apply Assoc.lookup_of_mem
  · rw [List.map_fst_zip (by simp)]
    exact clusterIds
  · rw [List.zip_map', List.mem_map]
    exact ⟨cluster, cluster_mem, rfl⟩

variable (named : ∀ cluster ∈ copy.clusters, cluster.id ≠ "")

include named

/-- A reference to a copy of a cluster leads back to the cluster. -/
theorem final_of_copy {reference : Option String}
    (known : ∀ id, reference = some id → id ∈ graph.clusters.map (·.id)) :
    (mergeClusters copy.clusters existing).final? (reference.map rename.cluster) = reference := by
  cases reference with
  | none => rfl
  | some id =>
      have id_mem := known id rfl
      have filled : rename.cluster id ≠ "" := by
        obtain ⟨cluster, cluster_mem, rfl⟩ := List.mem_map.mp id_mem
        obtain ⟨other, other_mem, other_eq⟩ :=
          exists_mem_of_map_eq copied.clusters.symm cluster_mem
        have id_eq : other.id = rename.cluster cluster.id := congrArg Cluster.id other_eq
        exact id_eq ▸ named other other_mem
      have kept : Text.nonempty (some (rename.cluster id)) = some (rename.cluster id) := by
        simp [Text.nonempty, filled]
      rw [Option.map_some, Clusters.final?, kept, Option.bind_some,
        lookup_ids_of_copy valid copied within clusterKeys clusterIds id_mem]

/-- The clusters come back as they were. -/
theorem clusters_mergeClusters_of_copy :
    (mergeClusters copy.clusters existing).clusters = graph.clusters := by
  obtain ⟨f, copies, copy_eq⟩ :=
    copied.exists_clusters_eq_map (List.Nodup.of_map _ valid.clusterIds)
  have renamed : renamedClusters copy.clusters existing = graph.clusters := by
    have entries : copy.clusters.zip (graph.clusters.map
        fun cluster => (cluster.id, some cluster)) =
        graph.clusters.map fun cluster => (f cluster, cluster.id, some cluster) := by
      rw [copies, List.zip_map']
    rw [renamedClusters, finalIds_of_copy valid copied within clusterKeys,
      claim_clusters valid copied within clusterKeys, List.zip_map', entries, List.map_map]
    conv_rhs => rw [← List.map_id graph.clusters]
    apply List.map_congr_left
    intro cluster cluster_mem
    have label_eq : (f cluster).label = cluster.label :=
      congrArg (fun cluster : Cluster Unit => cluster.label) (copy_eq cluster cluster_mem)
    have parent_eq : (f cluster).parent = cluster.parent.map rename.cluster :=
      congrArg Cluster.parent (copy_eq cluster cluster_mem)
    have parent_final := final_of_copy valid copied within clusterKeys clusterIds named
      fun id own_parent => (valid.parents cluster cluster_mem id own_parent).1
    rw [← parent_eq] at parent_final
    rw [Function.comp_apply, mergedCluster, label_eq]
    exact congrArg (fun parent => { cluster with parent }) parent_final
  rw [clusters_mergeClusters, renamed]
  exact breakCycles_of_ends valid.clusterIds valid.ends

end Clusters

/-! ## Nodes -/

section Nodes

variable {g : Node α → Node α}
  (copy_eq : ∀ node ∈ graph.nodes, (g node).unplaced = rename.ofNode node)

include copy_eq

omit copied in
/-- Every node is taken over by its copy. -/
theorem nodeEntries_of_copy {existing : List (Node α)} (within : graph.nodes ⊆ existing)
    (nodeKeys : (existing.map Node.key).Nodup) (copies : copy.nodes = graph.nodes.map g) :
    nodeEntries copy existing = graph.nodes.map fun node => (g node, some node) := by
  have keys : copy.nodes.map Node.key = graph.nodes.map Node.key := by
    rw [copies, List.map_map]
    apply List.map_congr_left
    intro node node_mem
    have content := copy_eq node node_mem
    have label_eq : (g node).label = node.label :=
      congrArg (fun node : Node Unit => node.label) content
    have name_eq : (g node).name = node.name := congrArg (fun node : Node Unit => node.name) content
    rw [Function.comp_apply, Node.key, Node.key, label_eq, name_eq]
  rw [nodeEntries, claim_of_keys nodeKeys within keys valid.nodeIds (by simp), copies,
    List.zip_map']

/-- A node comes back as it was. -/
theorem inheritNode_of_copy {existing : List (Cluster α)} (within : graph.clusters ⊆ existing)
    (clusterKeys : (existing.map Cluster.key).Nodup)
    (clusterIds : (copy.clusters.map (·.id)).Nodup)
    (named : ∀ cluster ∈ copy.clusters, cluster.id ≠ "") {node : Node α}
    (node_mem : node ∈ graph.nodes) :
    inheritNode (mergeClusters copy.clusters existing) (g node) node = node := by
  have content := copy_eq node node_mem
  have label_eq : (g node).label = node.label :=
    congrArg (fun node : Node Unit => node.label) content
  have name_eq : (g node).name = node.name := congrArg (fun node : Node Unit => node.name) content
  have cluster_eq : (g node).cluster = node.cluster.map rename.cluster :=
    congrArg Node.cluster content
  have final := final_of_copy valid copied within clusterKeys clusterIds named
    fun id own_cluster => valid.memberships node node_mem id own_cluster
  rw [inheritNode, label_eq, name_eq, cluster_eq, final]

end Nodes

end Copy

/-- Nodes that all take over an existing one are placed at once. -/
theorem placeNodes_of_inherited [Scalar α] (clusters : Clusters α) (g : Node α → Node α)
    (founds : List (Node α)) (canvasWidth : α) (draft : NodeDraft α) :
    placeNodes clusters canvasWidth draft (founds.map fun found => (g found, some found)) =
      .ok (founds.map fun found => inheritNode clusters (g found) found, draft) := by
  induction founds with
  | nil => rfl
  | cons found founds induction =>
      rw [List.map_cons, placeNodes, induction]
      rfl

/-- Nodes whose keys are those of existing ones, which have distinct keys, take these over. -/
theorem exists_merge_of_inherited [Scalar α] {graph copy : Graph α} {rename : Renaming}
    {g : Node α → Node α} (valid : graph.Valid)
    (copy_eq : ∀ node ∈ graph.nodes, (g node).unplaced = rename.ofNode node)
    (copies : copy.nodes = graph.nodes.map g) {nodes : List (Node α)}
    (within : graph.nodes ⊆ nodes) (nodeKeys : (nodes.map Node.key).Nodup)
    (clusters : List (Cluster α)) (canvasWidth : α) :
    ∃ merged, merge copy nodes clusters canvasWidth = .ok merged ∧
      merged.clusters = (mergeClusters copy.clusters clusters).clusters ∧
        merged.nodes = graph.nodes.map fun node =>
          inheritNode (mergeClusters copy.clusters clusters) (g node) node := by
  have entries := nodeEntries_of_copy valid copy_eq within nodeKeys copies
  have placed := placeNodes_of_inherited (mergeClusters copy.clusters clusters) g graph.nodes
    canvasWidth (inheritedDraft (mergeClusters copy.clusters clusters) (nodeEntries copy nodes))
  rw [← entries] at placed
  exact ⟨_, merge_of_placeNodes placed, rfl, rfl⟩

/-! ## Edges -/

/-- A copy of a copy joins the same nodes as the first diagram when the nodes have their first ids
back. -/
theorem edges_of_copied_back {graph copy merged : Graph α} {rename back : Renaming}
    (valid : graph.Valid) (copied : graph.CopiedBy rename copy)
    (copied_back : copy.CopiedBy back merged) (nodes_eq : merged.nodes = graph.nodes) :
    merged.edges.map Edge.unnamed = graph.edges.map Edge.unnamed := by
  have ids := copied_back.map_id_nodes
  have there_and_back :
      graph.nodes.map (·.id) = graph.nodes.map fun node => back.node (rename.node node.id) := by
    have renamed := congrArg (List.map back.node) copied.map_id_nodes
    rw [List.map_map, List.map_map] at renamed
    rw [nodes_eq] at ids
    exact ids.trans renamed
  have back_eq {id : String} (id_mem : id ∈ graph.nodes.map (·.id)) :
      back.node (rename.node id) = id := by
    obtain ⟨node, node_mem, rfl⟩ := List.mem_map.mp id_mem
    exact (List.map_inj_left.mp there_and_back node node_mem).symm
  have edges_eq := congrArg (List.map back.ofEdge) copied.edges
  rw [List.map_map, List.map_map] at edges_eq
  refine copied_back.edges.trans (edges_eq.trans (List.map_congr_left fun edge edge_mem => ?_))
  obtain ⟨source_mem, target_mem⟩ := valid.endpoints edge edge_mem
  simp only [Function.comp_apply, Renaming.ofEdge, back_eq source_mem, back_eq target_mem,
    Edge.unnamed]

/-- A copy is merged with entities that hold those of its diagram as the diagram itself, whatever
else there is. -/
theorem merge_of_copy [Scalar α] {graph copy : Graph α} {rename : Renaming} (valid : graph.Valid)
    (copied : graph.CopiedBy rename copy) (clusterIds : (copy.clusters.map (·.id)).Nodup)
    (nodeIds : (copy.nodes.map (·.id)).Nodup) (named : ∀ cluster ∈ copy.clusters, cluster.id ≠ "")
    {nodes : List (Node α)} {clusters : List (Cluster α)}
    (nodes_within : graph.nodes ⊆ nodes) (clusters_within : graph.clusters ⊆ clusters)
    (nodeKeys : (nodes.map Node.key).Nodup) (clusterKeys : (clusters.map Cluster.key).Nodup)
    (canvasWidth : α) :
    ∃ merged, merge copy nodes clusters canvasWidth = .ok merged ∧
      merged.clusters = graph.clusters ∧ merged.nodes = graph.nodes ∧
        merged.edges.map Edge.unnamed = graph.edges.map Edge.unnamed := by
  have : Nonempty (Node α) :=
    ⟨{ id := "", label := "", x := ((0 : Nat) : α), y := ((0 : Nat) : α) }⟩
  obtain ⟨g, copies, copy_eq⟩ :=
    exists_map_of_map_eq (List.Nodup.of_map _ valid.nodeIds) copied.nodes
  obtain ⟨merged, done, clusters_eq, inherited_eq⟩ :=
    exists_merge_of_inherited valid copy_eq copies nodes_within nodeKeys clusters canvasWidth
  have nodes_eq : merged.nodes = graph.nodes := by
    rw [inherited_eq]
    conv_rhs => rw [← List.map_id graph.nodes]
    apply List.map_congr_left
    exact fun node node_mem => inheritNode_of_copy valid copied copy_eq clusters_within clusterKeys
      clusterIds named node_mem
  obtain ⟨back, copied_back⟩ :=
    exists_copiedBy_of_merge (copied.valid valid clusterIds nodeIds) named done
  have clusters_kept :=
    clusters_mergeClusters_of_copy valid copied clusters_within clusterKeys clusterIds named
  exact ⟨merged, done, clusters_eq.trans clusters_kept, nodes_eq,
    edges_of_copied_back valid copied copied_back nodes_eq⟩

end Merge
end ClusterDiagram
