import ClusterDiagram.Proofs.Renaming

/-!
# Diagrams that hold the same

To hold the same is a relation between valid diagrams that goes both ways and is passed on.
-/

namespace ClusterDiagram

variable {α : Type}

/-- What belongs to some keys can be found under names that tell the keys apart. -/
theorem exists_back {β : Type} {keys : List β} {f g : β → String}
    (injective : ∀ key ∈ keys, ∀ other ∈ keys, f key = f other → key = other) :
    ∃ back : String → String, ∀ key ∈ keys, back (f key) = g key := by
  refine ⟨fun text => ((keys.find? fun key => f key == text).map g).getD "", ?_⟩
  intro key key_mem
  have found : (keys.find? fun other => f other == f key) = some key :=
    find?_eq_some_of_unique key_mem (beq_iff_eq.mpr rfl) fun other other_mem same =>
      injective other other_mem key key_mem (beq_iff_eq.mp same)
  dsimp only
  rw [found]
  rfl

namespace Renaming

/-- One renaming after another. -/
def after (second first : Renaming) : Renaming where
  cluster := second.cluster ∘ first.cluster
  node := second.node ∘ first.node

variable {first second : Renaming}

theorem map_ofCluster (clusters : List (Cluster α)) :
    clusters.map second.ofCluster = (clusters.map Cluster.unplaced).map second.ofCluster := by
  rw [List.map_map]
  rfl

theorem map_ofNode (nodes : List (Node α)) :
    nodes.map second.ofNode = (nodes.map Node.unplaced).map second.ofNode := by
  rw [List.map_map]
  rfl

theorem map_ofEdge (edges : List Edge) :
    edges.map second.ofEdge = (edges.map Edge.unnamed).map second.ofEdge := by
  rw [List.map_map]
  rfl

theorem ofCluster_ofCluster (cluster : Cluster α) :
    second.ofCluster (first.ofCluster cluster) = (second.after first).ofCluster cluster := by
  simp [ofCluster, after]

theorem ofNode_ofNode (node : Node α) :
    second.ofNode (first.ofNode node) = (second.after first).ofNode node := by
  simp [ofNode, after]

theorem ofEdge_ofEdge (edge : Edge) :
    second.ofEdge (first.ofEdge edge) = (second.after first).ofEdge edge :=
  rfl

end Renaming

namespace Graph.IsomorphicBy

variable {graph image other : Graph α} {rename rename' : Renaming}

/-- The clusters of the image have the new ids of the clusters. -/
theorem exists_cluster_image (same : graph.IsomorphicBy rename image) {cluster : Cluster α}
    (cluster_mem : cluster ∈ graph.clusters) :
    ∃ another ∈ image.clusters, another.id = rename.cluster cluster.id := by
  have renamed := same.clusters.mem_iff.mpr (List.mem_map_of_mem cluster_mem)
  obtain ⟨another, another_mem, another_eq⟩ := List.mem_map.mp renamed
  exact ⟨another, another_mem, congrArg Cluster.id another_eq⟩

theorem exists_node_image (same : graph.IsomorphicBy rename image) {node : Node α}
    (node_mem : node ∈ graph.nodes) : ∃ another ∈ image.nodes, another.id = rename.node node.id := by
  have renamed := same.nodes.mem_iff.mpr (List.mem_map_of_mem node_mem)
  obtain ⟨another, another_mem, another_eq⟩ := List.mem_map.mp renamed
  exact ⟨another, another_mem, congrArg Node.id another_eq⟩

/-- The order of the clusters does not count. -/
theorem of_reordered {order : List (Cluster α)} (order_perm : order.Perm graph.clusters)
    (same : IsomorphicBy rename { graph with clusters := order } image) :
    graph.IsomorphicBy rename image :=
  { same with
    clusters_injective := fun cluster cluster_mem another another_mem =>
      same.clusters_injective cluster (order_perm.mem_iff.mpr cluster_mem) another
        (order_perm.mem_iff.mpr another_mem)
    clusters := same.clusters.trans (order_perm.map _) }

theorem trans (first : graph.IsomorphicBy rename image)
    (second : image.IsomorphicBy rename' other) :
    graph.IsomorphicBy (rename'.after rename) other where
  clusters_injective := by
    intro cluster cluster_mem another another_mem same
    obtain ⟨image₁, image₁_mem, id₁⟩ := first.exists_cluster_image cluster_mem
    obtain ⟨image₂, image₂_mem, id₂⟩ := first.exists_cluster_image another_mem
    apply first.clusters_injective cluster cluster_mem another another_mem
    rw [← id₁, ← id₂]
    apply congrArg
    apply second.clusters_injective image₁ image₁_mem image₂ image₂_mem
    rw [id₁, id₂]
    exact same
  nodes_injective := by
    intro node node_mem another another_mem same
    obtain ⟨image₁, image₁_mem, id₁⟩ := first.exists_node_image node_mem
    obtain ⟨image₂, image₂_mem, id₂⟩ := first.exists_node_image another_mem
    apply first.nodes_injective node node_mem another another_mem
    rw [← id₁, ← id₂]
    apply congrArg
    apply second.nodes_injective image₁ image₁_mem image₂ image₂_mem
    rw [id₁, id₂]
    exact same
  clusters := by
    have renamed := first.clusters.map rename'.ofCluster
    rw [← Renaming.map_ofCluster, List.map_map] at renamed
    exact second.clusters.trans (renamed.trans (List.Perm.of_eq
      (List.map_congr_left fun cluster _ => Renaming.ofCluster_ofCluster cluster)))
  nodes := by
    have renamed := first.nodes.map rename'.ofNode
    rw [← Renaming.map_ofNode, List.map_map] at renamed
    exact second.nodes.trans (renamed.trans (List.Perm.of_eq
      (List.map_congr_left fun node _ => Renaming.ofNode_ofNode node)))
  edges := by
    rw [second.edges, Renaming.map_ofEdge, first.edges, List.map_map]
    exact List.map_congr_left fun edge _ => Renaming.ofEdge_ofEdge edge

/-! ## Back again -/

/-- Every cluster of the image is one of the clusters under its new id. -/
theorem exists_cluster_origin (same : graph.IsomorphicBy rename image) {cluster : Cluster α}
    (cluster_mem : cluster ∈ image.clusters) :
    ∃ origin ∈ graph.clusters, cluster.id = rename.cluster origin.id := by
  obtain ⟨origin, origin_mem, origin_eq⟩ :=
    List.mem_map.mp (same.clusters.mem_iff.mp (List.mem_map_of_mem cluster_mem))
  exact ⟨origin, origin_mem, (congrArg Cluster.id origin_eq).symm⟩

theorem exists_node_origin (same : graph.IsomorphicBy rename image) {node : Node α}
    (node_mem : node ∈ image.nodes) :
    ∃ origin ∈ graph.nodes, node.id = rename.node origin.id := by
  obtain ⟨origin, origin_mem, origin_eq⟩ :=
    List.mem_map.mp (same.nodes.mem_iff.mp (List.mem_map_of_mem node_mem))
  exact ⟨origin, origin_mem, (congrArg Node.id origin_eq).symm⟩

section Valid

variable (valid : graph.Valid) (same : graph.IsomorphicBy rename image)

include valid same

theorem clusterIds_image : (image.clusters.map (·.id)).Nodup := by
  have ids := same.clusters.map (·.id)
  rw [Cluster.map_id_unplaced, List.map_map] at ids
  rw [ids.nodup_iff]
  exact (List.Nodup.of_map _ valid.clusterIds).map_on fun cluster cluster_mem another another_mem =>
    same.clusters_injective cluster cluster_mem another another_mem

theorem nodeIds_image : (image.nodes.map (·.id)).Nodup := by
  have ids := same.nodes.map (·.id)
  rw [Node.map_id_unplaced, List.map_map] at ids
  rw [ids.nodup_iff]
  exact (List.Nodup.of_map _ valid.nodeIds).map_on fun node node_mem another another_mem =>
    same.nodes_injective node node_mem another another_mem

/-- A renaming that leads every id back leads the whole image back. -/
theorem symm_of_back {back : Renaming}
    (cluster_back : ∀ cluster ∈ graph.clusters,
      back.cluster (rename.cluster cluster.id) = cluster.id)
    (node_back : ∀ node ∈ graph.nodes, back.node (rename.node node.id) = node.id) :
    image.IsomorphicBy back graph := by
  have cluster_id {id : String} (id_mem : id ∈ graph.clusters.map (·.id)) :
      back.cluster (rename.cluster id) = id := by
    obtain ⟨origin, origin_mem, rfl⟩ := List.mem_map.mp id_mem
    exact cluster_back origin origin_mem
  have node_id {id : String} (id_mem : id ∈ graph.nodes.map (·.id)) :
      back.node (rename.node id) = id := by
    obtain ⟨origin, origin_mem, rfl⟩ := List.mem_map.mp id_mem
    exact node_back origin origin_mem
  have reference_back {reference : Option String}
      (listed : ∀ id, reference = some id → id ∈ graph.clusters.map (·.id)) :
      reference.map (back.cluster ∘ rename.cluster) = reference := by
    cases reference with
    | none => rfl
    | some id => exact congrArg some (cluster_id (listed id rfl))
  exact {
    clusters_injective := by
      intro cluster cluster_mem another another_mem back_eq
      obtain ⟨origin, origin_mem, id_eq⟩ := same.exists_cluster_origin cluster_mem
      obtain ⟨origin', origin'_mem, id_eq'⟩ := same.exists_cluster_origin another_mem
      rw [id_eq, id_eq', cluster_back origin origin_mem, cluster_back origin' origin'_mem]
        at back_eq
      apply List.inj_on_of_nodup_map (same.clusterIds_image valid) cluster_mem another_mem
      rw [id_eq, id_eq', back_eq]
    nodes_injective := by
      intro node node_mem another another_mem back_eq
      obtain ⟨origin, origin_mem, id_eq⟩ := same.exists_node_origin node_mem
      obtain ⟨origin', origin'_mem, id_eq'⟩ := same.exists_node_origin another_mem
      rw [id_eq, id_eq', node_back origin origin_mem, node_back origin' origin'_mem] at back_eq
      apply List.inj_on_of_nodup_map (same.nodeIds_image valid) node_mem another_mem
      rw [id_eq, id_eq', back_eq]
    clusters := by
      have renamed := same.clusters.map back.ofCluster
      rw [← Renaming.map_ofCluster, List.map_map] at renamed
      refine (renamed.trans (List.Perm.of_eq (List.map_congr_left ?_))).symm
      intro cluster cluster_mem
      have parent_back := reference_back fun parent parent_eq =>
        (valid.parents cluster cluster_mem parent parent_eq).1
      simp [Renaming.ofCluster, Cluster.unplaced, cluster_back cluster cluster_mem, parent_back]
    nodes := by
      have renamed := same.nodes.map back.ofNode
      rw [← Renaming.map_ofNode, List.map_map] at renamed
      refine (renamed.trans (List.Perm.of_eq (List.map_congr_left ?_))).symm
      intro node node_mem
      have cluster_eq := reference_back (valid.memberships node node_mem)
      simp [Renaming.ofNode, Node.unplaced, node_back node node_mem, cluster_eq]
    edges := by
      rw [Renaming.map_ofEdge, same.edges, List.map_map]
      apply List.map_congr_left
      intro edge edge_mem
      obtain ⟨source_mem, target_mem⟩ := valid.endpoints edge edge_mem
      simp [Renaming.ofEdge, Edge.unnamed, node_id source_mem, node_id target_mem] }

/-- What holds the same as a valid diagram is held by that diagram as well. -/
theorem exists_symm : ∃ back, image.IsomorphicBy back graph := by
  obtain ⟨cluster, cluster_back⟩ :=
    exists_back (g := fun cluster : Cluster α => cluster.id) same.clusters_injective
  obtain ⟨node, node_back⟩ := exists_back (g := fun node : Node α => node.id) same.nodes_injective
  exact ⟨⟨cluster, node⟩, same.symm_of_back valid cluster_back node_back⟩

end Valid

end Graph.IsomorphicBy

end ClusterDiagram
