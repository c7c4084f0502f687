import ClusterDiagram.Proofs.Renaming
import Mathlib.Data.List.Basic

/-!
# Diagrams without ids

Two diagrams hold the same in the same order when they agree after every reference was replaced by
the index of the entity that it leads to. Between valid diagrams this is the same as being a copy
under some renaming.
-/

namespace ClusterDiagram

variable {α : Type}

namespace Graph

/-- The index of the cluster with an id. -/
def clusterIndex (graph : Graph α) (id : String) : Nat :=
  (graph.clusters.map (·.id)).idxOf id

/-- The index of the node with an id. -/
def nodeIndex (graph : Graph α) (id : String) : Nat :=
  (graph.nodes.map (·.id)).idxOf id

/-- What a diagram holds apart from ids and coordinates, every reference being an index. -/
structure Skeleton where
  /-- Label and parent of every cluster. -/
  clusters : List (String × Option Nat)
  /-- Label, alias and cluster of every node. -/
  nodes : List (String × Option String × Option Nat)
  /-- Source, target, label and style of every edge. -/
  edges : List (Nat × Nat × Option String × EdgeStyle)
  deriving DecidableEq, Repr

/-- A diagram with its ids replaced by indices. -/
def skeleton (graph : Graph α) : Skeleton where
  clusters := graph.clusters.map fun cluster =>
    (cluster.label, cluster.parent.map graph.clusterIndex)
  nodes := graph.nodes.map fun node => (node.label, node.name, node.cluster.map graph.clusterIndex)
  edges := graph.edges.map fun edge =>
    (graph.nodeIndex edge.source, graph.nodeIndex edge.target, edge.label, edge.style)

end Graph

/-- A key keeps its index where keys are renamed to distinct ones. -/
theorem idxOf_map_of_nodup {β γ : Type} [BEq β] [LawfulBEq β] [BEq γ] [LawfulBEq γ] {keys : List β}
    {f : β → γ} (distinct : (keys.map f).Nodup) {key : β} (key_mem : key ∈ keys) :
    (keys.map f).idxOf (f key) = keys.idxOf key := by
  have bound := List.idxOf_lt_length_iff.mpr key_mem
  have bound' : keys.idxOf key < (keys.map f).length := by rwa [List.length_map]
  have here : (keys.map f)[keys.idxOf key] = f key := by
    rw [List.getElem_map, List.getElem_idxOf bound]
  rw [← here, distinct.idxOf_getElem]

theorem getElem?_idxOf_of_mem {β : Type} [BEq β] [LawfulBEq β] {keys : List β} {key : β}
    (key_mem : key ∈ keys) : keys[keys.idxOf key]? = some key := by
  have bound := List.idxOf_lt_length_iff.mpr key_mem
  rw [List.getElem?_eq_getElem bound, List.getElem_idxOf bound]

/-- Lists that agree under one view agree under another one that follows from it element by
element. -/
theorem map_eq_map_of_indices {β γ δ ε : Type} {first : List β} {second : List γ} {f : β → δ}
    {g : γ → δ} (same : first.map f = second.map g) {f' : β → ε} {g' : γ → ε}
    (agree : ∀ (index : Nat) (element : β) (other : γ), first[index]? = some element →
      second[index]? = some other → f element = g other → f' element = g' other) :
    first.map f' = second.map g' := by
  induction first generalizing second with
  | nil =>
      rw [List.map_nil, List.nil_eq, List.map_eq_nil_iff] at same
      rw [same]
      rfl
  | cons element first induction =>
      cases second with
      | nil => cases same
      | cons other second =>
          rw [List.map_cons, List.map_cons, List.cons.injEq] at same
          rw [List.map_cons, List.map_cons, agree 0 element other rfl rfl same.1,
            induction same.2 fun index element other at_index other_at_index =>
              agree (index + 1) element other at_index other_at_index]

namespace Graph.CopiedBy

variable {rename : Renaming} {graph copy : Graph α} (copied : CopiedBy rename graph copy)

include copied

section Clusters

variable (clusterIds : (copy.clusters.map (·.id)).Nodup)

include clusterIds

theorem clusterIndex_eq {id : String} (id_mem : id ∈ graph.clusters.map (·.id)) :
    copy.clusterIndex (rename.cluster id) = graph.clusterIndex id := by
  have ids : copy.clusters.map (·.id) = (graph.clusters.map (·.id)).map rename.cluster := by
    rw [copied.map_id_clusters, List.map_map]
    rfl
  rw [ids] at clusterIds
  rw [Graph.clusterIndex, ids, idxOf_map_of_nodup clusterIds id_mem, Graph.clusterIndex]

theorem map_clusterIndex_eq {reference : Option String}
    (known : ∀ id, reference = some id → id ∈ graph.clusters.map (·.id)) :
    (reference.map rename.cluster).map copy.clusterIndex = reference.map graph.clusterIndex := by
  cases reference with
  | none => rfl
  | some id => exact congrArg some (copied.clusterIndex_eq clusterIds (known id rfl))

theorem parentOf_eq (valid : graph.Valid) {id : String}
    (id_mem : id ∈ graph.clusters.map (·.id)) :
    ClusterTree.parentOf copy.clusters (rename.cluster id) =
      (ClusterTree.parentOf graph.clusters id).map rename.cluster := by
  obtain ⟨cluster, cluster_mem, rfl⟩ := List.mem_map.mp id_mem
  obtain ⟨other, other_mem, other_eq⟩ := exists_mem_of_map_eq copied.clusters.symm cluster_mem
  have id_eq : other.id = rename.cluster cluster.id := congrArg Cluster.id other_eq
  have parent_eq : other.parent = cluster.parent.map rename.cluster :=
    congrArg Cluster.parent other_eq
  rw [← id_eq, ClusterTree.parentOf_of_mem clusterIds other_mem, parent_eq,
    ClusterTree.parentOf_of_mem valid.clusterIds cluster_mem]

/-- A chain of parents that ends is copied to one that ends. -/
theorem ascend_eq_none (valid : graph.Valid) {steps : Nat} {id : String}
    (id_mem : id ∈ graph.clusters.map (·.id))
    (ended : ClusterTree.ascend (ClusterTree.parentOf graph.clusters) steps id = none) :
    ClusterTree.ascend (ClusterTree.parentOf copy.clusters) steps (rename.cluster id) = none := by
  induction steps generalizing id with
  | zero => cases ended
  | succ steps induction =>
      rw [ClusterTree.ascend, copied.parentOf_eq clusterIds valid id_mem]
      rw [ClusterTree.ascend] at ended
      cases link : ClusterTree.parentOf graph.clusters id with
      | none => rfl
      | some parent =>
          rw [link] at ended
          obtain ⟨cluster, cluster_mem, rfl, parent_eq⟩ := ClusterTree.parentOf_eq_some link
          exact induction (valid.parents cluster cluster_mem parent parent_eq).1 ended

end Clusters

/-- A copy of a valid diagram under distinct ids is valid. -/
theorem valid (valid : graph.Valid) (clusterIds : (copy.clusters.map (·.id)).Nodup)
    (nodeIds : (copy.nodes.map (·.id)).Nodup) : copy.Valid := by
  have cluster_listed {id : String} (id_mem : id ∈ graph.clusters.map (·.id)) :
      rename.cluster id ∈ copy.clusters.map (·.id) := by
    rw [copied.map_id_clusters]
    obtain ⟨cluster, cluster_mem, rfl⟩ := List.mem_map.mp id_mem
    exact List.mem_map_of_mem cluster_mem
  have node_listed {id : String} (id_mem : id ∈ graph.nodes.map (·.id)) :
      rename.node id ∈ copy.nodes.map (·.id) := by
    rw [copied.map_id_nodes]
    obtain ⟨node, node_mem, rfl⟩ := List.mem_map.mp id_mem
    exact List.mem_map_of_mem node_mem
  have ends : ∀ other ∈ copy.clusters,
      ClusterTree.Ends (ClusterTree.parentOf copy.clusters) other.id := by
    intro other other_mem
    obtain ⟨cluster, cluster_mem, cluster_eq⟩ := exists_mem_of_map_eq copied.clusters other_mem
    have id_eq : rename.cluster cluster.id = other.id := congrArg Cluster.id cluster_eq
    obtain ⟨steps, ended⟩ := valid.ends cluster cluster_mem
    rw [← id_eq]
    exact ⟨steps, copied.ascend_eq_none clusterIds valid (List.mem_map_of_mem cluster_mem) ended⟩
  have parents : ∀ other ∈ copy.clusters, ∀ parent, other.parent = some parent →
      parent ∈ copy.clusters.map (·.id) := by
    intro other other_mem parent parent_eq
    obtain ⟨cluster, cluster_mem, cluster_eq⟩ := exists_mem_of_map_eq copied.clusters other_mem
    have renamed : cluster.parent.map rename.cluster = other.parent :=
      congrArg Cluster.parent cluster_eq
    rw [parent_eq] at renamed
    obtain ⟨own, own_eq, rfl⟩ := Option.map_eq_some_iff.mp renamed
    exact cluster_listed (valid.parents cluster cluster_mem own own_eq).1
  exact {
    clusterIds
    nodeIds
    parents := by
      intro other other_mem parent parent_eq
      refine ⟨parents other other_mem parent parent_eq, ?_⟩
      rintro rfl
      apply (ends other other_mem).not_returns
      refine ⟨0, ?_⟩
      rw [ClusterTree.ascend, ClusterTree.parentOf_of_mem clusterIds other_mem, parent_eq]
      rfl
    ends
    memberships := by
      intro other other_mem id cluster_eq
      obtain ⟨node, node_mem, node_eq⟩ := exists_mem_of_map_eq copied.nodes other_mem
      have renamed : node.cluster.map rename.cluster = other.cluster :=
        congrArg Node.cluster node_eq
      rw [cluster_eq] at renamed
      obtain ⟨own, own_eq, rfl⟩ := Option.map_eq_some_iff.mp renamed
      exact cluster_listed (valid.memberships node node_mem own own_eq)
    endpoints := by
      intro other other_mem
      obtain ⟨edge, edge_mem, edge_eq⟩ := exists_mem_of_map_eq copied.edges other_mem
      have source_eq : rename.node edge.source = other.source := congrArg Edge.source edge_eq
      have target_eq : rename.node edge.target = other.target := congrArg Edge.target edge_eq
      obtain ⟨source_mem, target_mem⟩ := valid.endpoints edge edge_mem
      exact ⟨source_eq ▸ node_listed source_mem, target_eq ▸ node_listed target_mem⟩ }

/-- A copy under distinct ids has the same skeleton. -/
theorem skeleton_eq (valid : graph.Valid) (clusterIds : (copy.clusters.map (·.id)).Nodup)
    (nodeIds : (copy.nodes.map (·.id)).Nodup) : copy.skeleton = graph.skeleton := by
  have nodeIndex_eq {id : String} (id_mem : id ∈ graph.nodes.map (·.id)) :
      copy.nodeIndex (rename.node id) = graph.nodeIndex id := by
    have ids : copy.nodes.map (·.id) = (graph.nodes.map (·.id)).map rename.node := by
      rw [copied.map_id_nodes, List.map_map]
      rfl
    rw [ids] at nodeIds
    rw [nodeIndex, ids, idxOf_map_of_nodup nodeIds id_mem, nodeIndex]
  have clusters_eq := congrArg
    (List.map fun cluster : Cluster Unit => (cluster.label, cluster.parent.map copy.clusterIndex))
    copied.clusters
  have nodes_eq := congrArg
    (List.map fun node : Node Unit =>
      (node.label, node.name, node.cluster.map copy.clusterIndex)) copied.nodes
  have edges_eq := congrArg
    (List.map fun edge : Edge =>
      (copy.nodeIndex edge.source, copy.nodeIndex edge.target, edge.label, edge.style)) copied.edges
  rw [List.map_map, List.map_map] at clusters_eq nodes_eq edges_eq
  rw [skeleton, skeleton, Skeleton.mk.injEq]
  refine ⟨clusters_eq.trans ?_, nodes_eq.trans ?_, edges_eq.trans ?_⟩
  · apply List.map_congr_left
    intro cluster cluster_mem
    exact congrArg (Prod.mk _) (copied.map_clusterIndex_eq clusterIds fun id parent_eq =>
      (valid.parents cluster cluster_mem id parent_eq).1)
  · apply List.map_congr_left
    intro node node_mem
    exact congrArg (fun index => (node.label, node.name, index))
      (copied.map_clusterIndex_eq clusterIds fun id cluster_eq =>
        valid.memberships node node_mem id cluster_eq)
  · apply List.map_congr_left
    intro edge edge_mem
    obtain ⟨source_mem, target_mem⟩ := valid.endpoints edge edge_mem
    simp only [Function.comp_apply, Renaming.ofEdge, nodeIndex_eq source_mem,
      nodeIndex_eq target_mem]

end Graph.CopiedBy

namespace Graph

/-! ## Growing diagrams -/

section Growth

variable {graph : Graph α} (valid : graph.Valid)

theorem clusterIndex_of_front {other : Graph α} (front : graph.clusters <+: other.clusters)
    {id : String} (id_mem : id ∈ graph.clusters.map (·.id)) :
    other.clusterIndex id = graph.clusterIndex id := by
  obtain ⟨added, clusters_eq⟩ := front
  rw [clusterIndex, ← clusters_eq, List.map_append, List.idxOf_append_of_mem id_mem, clusterIndex]

theorem nodeIndex_of_front {other : Graph α} (front : graph.nodes <+: other.nodes) {id : String}
    (id_mem : id ∈ graph.nodes.map (·.id)) : other.nodeIndex id = graph.nodeIndex id := by
  obtain ⟨added, nodes_eq⟩ := front
  rw [nodeIndex, ← nodes_eq, List.map_append, List.idxOf_append_of_mem id_mem, nodeIndex]

theorem map_clusterIndex_of_front {other : Graph α} (front : graph.clusters <+: other.clusters)
    {reference : Option String}
    (listed : ∀ id, reference = some id → id ∈ graph.clusters.map (·.id)) :
    reference.map other.clusterIndex = reference.map graph.clusterIndex := by
  cases reference with
  | none => rfl
  | some id => exact congrArg some (clusterIndex_of_front front (listed id rfl))

include valid

theorem skeleton_addCluster {cluster : Cluster α}
    (listed : ∀ parent, cluster.parent = some parent → parent ∈ graph.clusters.map (·.id)) :
    skeleton { graph with clusters := graph.clusters ++ [cluster] } =
      { graph.skeleton with
        clusters := graph.skeleton.clusters ++
          [(cluster.label, cluster.parent.map graph.clusterIndex)] } := by
  have front : graph.clusters <+: graph.clusters ++ [cluster] := List.prefix_append _ _
  rw [skeleton, skeleton, Skeleton.mk.injEq]
  refine ⟨?_, ?_, rfl⟩
  · rw [List.map_append, List.map_singleton, map_clusterIndex_of_front front listed]
    congr 1
    apply List.map_congr_left
    intro other other_mem
    rw [map_clusterIndex_of_front front fun id parent_eq =>
      (valid.parents other other_mem id parent_eq).1]
  · apply List.map_congr_left
    intro node node_mem
    rw [map_clusterIndex_of_front front (valid.memberships node node_mem)]

theorem skeleton_addNode (node : Node α) :
    skeleton { graph with nodes := graph.nodes ++ [node] } =
      { graph.skeleton with
        nodes := graph.skeleton.nodes ++
          [(node.label, node.name, node.cluster.map graph.clusterIndex)] } := by
  have front : graph.nodes <+: graph.nodes ++ [node] := List.prefix_append _ _
  rw [skeleton, skeleton, Skeleton.mk.injEq]
  refine ⟨rfl, ?_, ?_⟩
  · rw [List.map_append]
    rfl
  · apply List.map_congr_left
    intro edge edge_mem
    obtain ⟨source_mem, target_mem⟩ := valid.endpoints edge edge_mem
    rw [nodeIndex_of_front front source_mem, nodeIndex_of_front front target_mem]

omit valid in
theorem skeleton_addEdge (edge : Edge) :
    skeleton { graph with edges := graph.edges ++ [edge] } =
      { graph.skeleton with
        edges := graph.skeleton.edges ++ [(graph.nodeIndex edge.source,
          graph.nodeIndex edge.target, edge.label, edge.style)] } := by
  rw [skeleton, List.map_append]
  rfl

end Growth

/-! ## Same skeletons -/

/-- The renaming that gives every entity the id of its counterpart, the entity with the same index
in another diagram. -/
def counterparts (graph other : Graph α) : Renaming where
  cluster := fun id => ((other.clusters.map (·.id))[graph.clusterIndex id]?).getD ""
  node := fun id => ((other.nodes.map (·.id))[graph.nodeIndex id]?).getD ""

section Same

variable {graph other : Graph α}

theorem counterparts_cluster {id own : String} (listed : id ∈ other.clusters.map (·.id))
    (index_eq : other.clusterIndex id = graph.clusterIndex own) :
    (counterparts graph other).cluster own = id := by
  have found := getElem?_idxOf_of_mem listed
  rw [← clusterIndex, index_eq] at found
  simp only [counterparts, found, Option.getD_some]

theorem counterparts_node {id own : String} (listed : id ∈ other.nodes.map (·.id))
    (index_eq : other.nodeIndex id = graph.nodeIndex own) :
    (counterparts graph other).node own = id := by
  have found := getElem?_idxOf_of_mem listed
  rw [← nodeIndex, index_eq] at found
  simp only [counterparts, found, Option.getD_some]

theorem map_counterparts_cluster {reference own : Option String}
    (listed : ∀ id, reference = some id → id ∈ other.clusters.map (·.id))
    (index_eq : reference.map other.clusterIndex = own.map graph.clusterIndex) :
    own.map (counterparts graph other).cluster = reference := by
  cases reference with
  | none =>
      rw [Option.map_none, eq_comm, Option.map_eq_none_iff] at index_eq
      rw [index_eq]
      rfl
  | some id =>
      cases own with
      | none => cases index_eq
      | some own =>
          exact congrArg some (counterparts_cluster (listed id rfl) (Option.some.inj index_eq))

theorem clusterIndex_getElem (valid : graph.Valid) {index : Nat} {cluster : Cluster α}
    (at_index : graph.clusters[index]? = some cluster) : graph.clusterIndex cluster.id = index := by
  obtain ⟨bound, rfl⟩ := List.getElem?_eq_some_iff.mp at_index
  have position := valid.clusterIds.idxOf_getElem index (by rwa [List.length_map])
  rwa [List.getElem_map] at position

theorem nodeIndex_getElem (valid : graph.Valid) {index : Nat} {node : Node α}
    (at_index : graph.nodes[index]? = some node) : graph.nodeIndex node.id = index := by
  obtain ⟨bound, rfl⟩ := List.getElem?_eq_some_iff.mp at_index
  have position := valid.nodeIds.idxOf_getElem index (by rwa [List.length_map])
  rwa [List.getElem_map] at position

/-- Valid diagrams with the same skeleton are copies of each other. -/
theorem copiedBy_counterparts (valid : graph.Valid) (other_valid : other.Valid)
    (same : other.skeleton = graph.skeleton) : graph.CopiedBy (counterparts graph other) other := by
  have same_clusters := congrArg Skeleton.clusters same
  have same_nodes := congrArg Skeleton.nodes same
  have same_edges := congrArg Skeleton.edges same
  refine ⟨?_, ?_, ?_⟩
  · apply map_eq_map_of_indices same_clusters
    intro index image cluster image_at cluster_at content
    rw [Prod.mk.injEq] at content
    have id_eq : (counterparts graph other).cluster cluster.id = image.id := by
      apply counterparts_cluster (List.mem_map_of_mem (List.mem_of_getElem? image_at))
      rw [clusterIndex_getElem valid cluster_at, clusterIndex_getElem other_valid image_at]
    have parent_eq := map_counterparts_cluster
      (fun id parent_eq =>
        (other_valid.parents image (List.mem_of_getElem? image_at) id parent_eq).1) content.2
    rw [Cluster.unplaced, Renaming.ofCluster, id_eq, parent_eq, content.1]
  · apply map_eq_map_of_indices same_nodes
    intro index image node image_at node_at content
    rw [Prod.mk.injEq, Prod.mk.injEq] at content
    have id_eq : (counterparts graph other).node node.id = image.id := by
      apply counterparts_node (List.mem_map_of_mem (List.mem_of_getElem? image_at))
      rw [nodeIndex_getElem valid node_at, nodeIndex_getElem other_valid image_at]
    have cluster_eq := map_counterparts_cluster
      (other_valid.memberships image (List.mem_of_getElem? image_at)) content.2.2
    rw [Node.unplaced, Renaming.ofNode, id_eq, cluster_eq, content.1, content.2.1]
  · apply map_eq_map_of_indices same_edges
    intro index image edge image_at edge_at content
    simp only [Prod.mk.injEq] at content
    obtain ⟨source_eq, target_eq, label_eq, style_eq⟩ := content
    obtain ⟨source_mem, target_mem⟩ :=
      other_valid.endpoints image (List.mem_of_getElem? image_at)
    rw [Edge.unnamed, Renaming.ofEdge, counterparts_node source_mem source_eq,
      counterparts_node target_mem target_eq, label_eq, style_eq]

end Same

end Graph

end ClusterDiagram
