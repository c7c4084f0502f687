import ClusterDiagram.Proofs.WellFormed

/-!
# Edits of well-formed diagrams

Entities with new ids may be added, nodes may leave together with their edges, and whatever ids and
references do not depend on may change.
-/

namespace ClusterDiagram

namespace Graph

variable {α : Type} {graph : Graph α}

/-- A diagram of nothing is well-formed. -/
theorem wellFormed_empty : ({} : Graph α).WellFormed where
  clusterIds := List.nodup_nil
  nodeIds := List.nodup_nil
  parents := by simp
  ends := by simp
  memberships := by simp
  endpoints := by simp
  edgeIds := List.nodup_nil

/-- Nodes may change in everything but their ids, as long as they lie in listed clusters. -/
theorem WellFormed.withNodes (wellFormed : graph.WellFormed) {nodes : List (Node α)}
    (ids : nodes.map (·.id) = graph.nodes.map (·.id))
    (memberships : ∀ node ∈ nodes, ∀ cluster, node.cluster = some cluster →
      cluster ∈ graph.clusters.map (·.id)) :
    { graph with nodes }.WellFormed :=
  { wellFormed with
    nodeIds := ids ▸ wellFormed.nodeIds
    memberships
    endpoints := ids ▸ wellFormed.endpoints }

/-- A node may be added under a new id. -/
theorem WellFormed.addNode (wellFormed : graph.WellFormed) {node : Node α}
    (new : node.id ∉ graph.nodes.map (·.id))
    (member : ∀ cluster, node.cluster = some cluster → cluster ∈ graph.clusters.map (·.id)) :
    { graph with nodes := graph.nodes ++ [node] }.WellFormed :=
  { wellFormed with
    nodeIds := by
      rw [List.map_append, List.map_singleton, ← List.concat_eq_append]
      exact wellFormed.nodeIds.concat new
    memberships := by
      intro other other_mem
      rcases List.mem_append.mp other_mem with old | added
      · exact wellFormed.memberships other old
      · obtain rfl := List.mem_singleton.mp added
        exact member
    endpoints := by
      intro edge edge_mem
      obtain ⟨source, target⟩ := wellFormed.endpoints edge edge_mem
      rw [List.map_append]
      exact ⟨List.mem_append_left _ source, List.mem_append_left _ target⟩ }

/-- A node may leave together with its edges. -/
theorem WellFormed.removeNode (wellFormed : graph.WellFormed) (id : String) :
    { graph with
      nodes := graph.nodes.filter fun node => node.id != id
      edges := graph.edges.filter fun edge =>
        edge.source != id && edge.target != id }.WellFormed :=
  { wellFormed with
    nodeIds := wellFormed.nodeIds.sublist (List.filter_sublist.map _)
    memberships := fun node node_mem =>
      wellFormed.memberships node (List.mem_of_mem_filter node_mem)
    endpoints := by
      intro edge edge_mem
      obtain ⟨old, apart⟩ := List.mem_filter.mp edge_mem
      simp only [Bool.and_eq_true, bne_iff_ne] at apart
      have stays (other : String) (ne : other ≠ id) (listed : other ∈ graph.nodes.map (·.id)) :
          other ∈ (graph.nodes.filter fun node => node.id != id).map (·.id) := by
        obtain ⟨node, node_mem, rfl⟩ := List.mem_map.mp listed
        exact List.mem_map_of_mem (List.mem_filter.mpr ⟨node_mem, by simpa using ne⟩)
      obtain ⟨source, target⟩ := wellFormed.endpoints edge old
      exact ⟨stays edge.source apart.1 source, stays edge.target apart.2 target⟩
    edgeIds := wellFormed.edgeIds.sublist (List.filter_sublist.map _) }

/-- An edge between two nodes may be added under a new id. -/
theorem WellFormed.addEdge (wellFormed : graph.WellFormed) {edge : Edge}
    (new : edge.id ∉ graph.edges.map (·.id))
    (ends : edge.source ∈ graph.nodes.map (·.id) ∧ edge.target ∈ graph.nodes.map (·.id)) :
    { graph with edges := graph.edges ++ [edge] }.WellFormed :=
  { wellFormed with
    endpoints := by
      intro other other_mem
      rcases List.mem_append.mp other_mem with old | added
      · exact wellFormed.endpoints other old
      · obtain rfl := List.mem_singleton.mp added
        exact ends
    edgeIds := by
      rw [List.map_append, List.map_singleton, ← List.concat_eq_append]
      exact wellFormed.edgeIds.concat new }

/-- Edges may change in everything but their ids and ends. -/
theorem WellFormed.mapEdges (wellFormed : graph.WellFormed) {change : Edge → Edge}
    (same : ∀ edge, (change edge).id = edge.id ∧ (change edge).source = edge.source ∧
      (change edge).target = edge.target) :
    { graph with edges := graph.edges.map change }.WellFormed :=
  { wellFormed with
    endpoints := by
      intro changed changed_mem
      obtain ⟨edge, edge_mem, rfl⟩ := List.mem_map.mp changed_mem
      obtain ⟨-, source, target⟩ := same edge
      rw [source, target]
      exact wellFormed.endpoints edge edge_mem
    edgeIds := by
      have ids : (graph.edges.map change).map (·.id) = graph.edges.map (·.id) := by
        rw [List.map_map]
        exact List.map_congr_left fun edge _ => (same edge).1
      exact ids ▸ wellFormed.edgeIds }

/-- Edges may leave. -/
theorem WellFormed.filterEdges (wellFormed : graph.WellFormed) (keep : Edge → Bool) :
    { graph with edges := graph.edges.filter keep }.WellFormed :=
  { wellFormed with
    endpoints := fun edge edge_mem =>
      wellFormed.endpoints edge (List.mem_of_mem_filter edge_mem)
    edgeIds := wellFormed.edgeIds.sublist (List.filter_sublist.map _) }

/-- The parent of an added cluster is its own, and those of all others stay. -/
theorem parentOf_append_singleton {clusters : List (Cluster α)} {cluster : Cluster α}
    (new : cluster.id ∉ clusters.map (·.id)) (id : String) :
    ClusterTree.parentOf (clusters ++ [cluster]) id =
      if id = cluster.id then cluster.parent else ClusterTree.parentOf clusters id := by
  rw [ClusterTree.parentOf, ClusterTree.parentOf, List.find?_append, List.find?_singleton]
  by_cases same : id = cluster.id
  · have absent : (clusters.find? fun other => other.id == id) = none := by
      rw [List.find?_eq_none]
      intro other other_mem
      rw [beq_iff_eq]
      rintro rfl
      exact new (same ▸ List.mem_map_of_mem other_mem)
    rw [absent, if_pos (beq_iff_eq.mpr same.symm), if_pos same]
    rfl
  · have apart : ¬ (cluster.id == id) = true := by simpa using Ne.symm same
    rw [if_neg apart, if_neg same, Option.or_none]

/-- A cluster may be added under a new id, as long as its parent is listed. -/
theorem WellFormed.addCluster (wellFormed : graph.WellFormed) {cluster : Cluster α}
    (new : cluster.id ∉ graph.clusters.map (·.id))
    (listed : ∀ parent, cluster.parent = some parent → parent ∈ graph.clusters.map (·.id)) :
    { graph with clusters := graph.clusters ++ [cluster] }.WellFormed := by
  have ids : ((graph.clusters ++ [cluster]).map (·.id)).Nodup := by
    rw [List.map_append, List.map_singleton, ← List.concat_eq_append]
    exact wellFormed.clusterIds.concat new
  have grown {id : String} (old : id ∈ graph.clusters.map (·.id)) :
      id ∈ (graph.clusters ++ [cluster]).map (·.id) := by
    rw [List.map_append]
    exact List.mem_append_left _ old
  have chains {steps : Nat} {id : String} (old : id ∈ graph.clusters.map (·.id)) :
      ClusterTree.ascend (ClusterTree.parentOf graph.clusters) steps id =
        ClusterTree.ascend (ClusterTree.parentOf (graph.clusters ++ [cluster])) steps id := by
    apply ClusterTree.ascend_congr (· ∈ graph.clusters.map (·.id)) _ _ old
    · intro id id_mem
      rw [parentOf_append_singleton new, if_neg]
      rintro rfl
      exact new id_mem
    · intro id next _ link
      obtain ⟨other, other_mem, -, parent_eq⟩ := ClusterTree.parentOf_eq_some link
      exact (wellFormed.parents other other_mem next parent_eq).1
  have ends {id : String} (old : id ∈ graph.clusters.map (·.id)) :
      ClusterTree.Ends (ClusterTree.parentOf (graph.clusters ++ [cluster])) id := by
    obtain ⟨other, other_mem, rfl⟩ := List.mem_map.mp old
    obtain ⟨steps, ended⟩ := wellFormed.ends other other_mem
    exact ⟨steps, (chains old).symm.trans ended⟩
  exact { wellFormed with
    clusterIds := ids
    parents := by
      intro other other_mem parent parent_eq
      rcases List.mem_append.mp other_mem with old | added
      · obtain ⟨parent_mem, apart⟩ := wellFormed.parents other old parent parent_eq
        exact ⟨grown parent_mem, apart⟩
      · obtain rfl := List.mem_singleton.mp added
        have parent_mem := listed parent parent_eq
        refine ⟨grown parent_mem, ?_⟩
        rintro rfl
        exact new parent_mem
    ends := by
      intro other other_mem
      rcases List.mem_append.mp other_mem with old | added
      · exact ends (List.mem_map_of_mem old)
      · obtain rfl := List.mem_singleton.mp added
        have link := parentOf_append_singleton new other.id
        rw [if_pos rfl] at link
        cases parent_eq : other.parent with
        | none =>
            refine ⟨1, ?_⟩
            rw [ClusterTree.ascend, link, parent_eq]
            rfl
        | some parent =>
            obtain ⟨steps, ended⟩ := ends (listed parent parent_eq)
            refine ⟨steps + 1, ?_⟩
            rw [ClusterTree.ascend, link, parent_eq]
            exact ended
    memberships := fun node node_mem parent parent_eq =>
      grown (wellFormed.memberships node node_mem parent parent_eq) }

end Graph
end ClusterDiagram
