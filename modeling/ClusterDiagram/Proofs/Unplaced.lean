import ClusterDiagram.Layout
import ClusterDiagram.Proofs.WellFormed

/-!
# Diagrams without coordinates

Whether a diagram is well-formed does not depend on where its entities lie. Laying out moves
entities and changes nothing else.
-/

namespace ClusterDiagram

variable {α : Type}

/-- A cluster without its anchor. -/
def Cluster.unplaced (cluster : Cluster α) : Cluster Unit where
  id := cluster.id
  label := cluster.label
  parent := cluster.parent

/-- A node without its position. -/
def Node.unplaced (node : Node α) : Node Unit where
  id := node.id
  label := node.label
  name := node.name
  x := ()
  y := ()
  cluster := node.cluster

/-- A diagram without its coordinates. -/
def Graph.unplaced (graph : Graph α) : Graph Unit where
  clusters := graph.clusters.map Cluster.unplaced
  nodes := graph.nodes.map Node.unplaced
  edges := graph.edges

@[simp] theorem Cluster.unplaced_id (cluster : Cluster α) : cluster.unplaced.id = cluster.id := rfl

@[simp] theorem Cluster.unplaced_label (cluster : Cluster α) :
    cluster.unplaced.label = cluster.label := rfl

@[simp] theorem Cluster.unplaced_parent (cluster : Cluster α) :
    cluster.unplaced.parent = cluster.parent := rfl

@[simp] theorem Node.unplaced_id (node : Node α) : node.unplaced.id = node.id := rfl

@[simp] theorem Node.unplaced_label (node : Node α) : node.unplaced.label = node.label := rfl

@[simp] theorem Node.unplaced_name (node : Node α) : node.unplaced.name = node.name := rfl

@[simp] theorem Node.unplaced_cluster (node : Node α) :
    node.unplaced.cluster = node.cluster := rfl

theorem Cluster.unplaced_key (cluster : Cluster α) : cluster.unplaced.key = cluster.key := by
  rw [key, key, unplaced_label]

theorem Node.unplaced_key (node : Node α) : node.unplaced.key = node.key := by
  rw [key, key, unplaced_label, unplaced_name]

theorem Cluster.map_id_unplaced (clusters : List (Cluster α)) :
    (clusters.map Cluster.unplaced).map (·.id) = clusters.map (·.id) := by
  rw [List.map_map]
  rfl

theorem Node.map_id_unplaced (nodes : List (Node α)) :
    (nodes.map Node.unplaced).map (·.id) = nodes.map (·.id) := by
  rw [List.map_map]
  rfl

theorem ClusterTree.parentOf_unplaced (clusters : List (Cluster α)) :
    ClusterTree.parentOf (clusters.map Cluster.unplaced) = ClusterTree.parentOf clusters := by
  funext id
  rw [ClusterTree.parentOf, ClusterTree.parentOf, List.find?_map, Option.bind_map]
  rfl

namespace Graph

/-- Coordinates do not count for validity. -/
theorem valid_unplaced_iff (graph : Graph α) : graph.unplaced.Valid ↔ graph.Valid := by
  constructor
  · intro valid
    exact {
      clusterIds := Cluster.map_id_unplaced graph.clusters ▸ valid.clusterIds
      nodeIds := Node.map_id_unplaced graph.nodes ▸ valid.nodeIds
      parents := fun cluster cluster_mem => Cluster.map_id_unplaced graph.clusters ▸
        valid.parents cluster.unplaced (List.mem_map_of_mem cluster_mem)
      ends := fun cluster cluster_mem => ClusterTree.parentOf_unplaced graph.clusters ▸
        valid.ends cluster.unplaced (List.mem_map_of_mem cluster_mem)
      memberships := fun node node_mem => Cluster.map_id_unplaced graph.clusters ▸
        valid.memberships node.unplaced (List.mem_map_of_mem node_mem)
      endpoints := Node.map_id_unplaced graph.nodes ▸ valid.endpoints }
  · intro valid
    exact {
      clusterIds := (Cluster.map_id_unplaced graph.clusters).symm ▸ valid.clusterIds
      nodeIds := (Node.map_id_unplaced graph.nodes).symm ▸ valid.nodeIds
      parents := by
        rintro _ unplaced_mem
        obtain ⟨cluster, cluster_mem, rfl⟩ := List.mem_map.mp unplaced_mem
        exact (Cluster.map_id_unplaced graph.clusters).symm ▸ valid.parents cluster cluster_mem
      ends := by
        rintro _ unplaced_mem
        obtain ⟨cluster, cluster_mem, rfl⟩ := List.mem_map.mp unplaced_mem
        exact (ClusterTree.parentOf_unplaced graph.clusters).symm ▸ valid.ends cluster cluster_mem
      memberships := by
        rintro _ unplaced_mem
        obtain ⟨node, node_mem, rfl⟩ := List.mem_map.mp unplaced_mem
        exact (Cluster.map_id_unplaced graph.clusters).symm ▸ valid.memberships node node_mem
      endpoints := (Node.map_id_unplaced graph.nodes).symm ▸ valid.endpoints }

/-- Coordinates do not count for being well-formed. -/
theorem wellFormed_unplaced_iff (graph : Graph α) :
    graph.unplaced.WellFormed ↔ graph.WellFormed :=
  ⟨fun wellFormed => ⟨(valid_unplaced_iff graph).mp wellFormed.toValid, wellFormed.edgeIds⟩,
    fun wellFormed => ⟨(valid_unplaced_iff graph).mpr wellFormed.toValid, wellFormed.edgeIds⟩⟩

/-- Moving entities keeps a diagram well-formed. -/
theorem WellFormed.of_unplaced_eq {graph moved : Graph α} (wellFormed : graph.WellFormed)
    (same : moved.unplaced = graph.unplaced) : moved.WellFormed := by
  rw [← wellFormed_unplaced_iff, same]
  exact (wellFormed_unplaced_iff graph).mpr wellFormed

end Graph

namespace Layout

variable [Scalar α]

theorem unplaced_placeMember (target : Target α) (size slot : Nat) (node : Node α) :
    (placeMember target size slot node).unplaced = node.unplaced := by
  rw [placeMember]
  split <;> rfl

theorem map_unplaced_placeMembers (targets : List (String × Target α)) (size : String → Nat)
    (slots : List (String × Nat)) (nodes : List (Node α)) :
    (placeMembers targets size slots nodes).map Node.unplaced = nodes.map Node.unplaced := by
  induction nodes generalizing slots with
  | nil => rfl
  | cons node nodes induction =>
      simp only [placeMembers]
      split
      · rw [List.map_cons, List.map_cons, induction]
      · rw [List.map_cons, List.map_cons, induction, unplaced_placeMember]

/-- Laying out changes coordinates only. -/
theorem unplaced_layout {clusters placed : List (Cluster α)} {nodes moved : List (Node α)}
    {anchor : Option (Anchor α)} {canvas : Canvas α}
    (laid : layout clusters nodes anchor canvas = .ok (placed, moved)) :
    placed.map Cluster.unplaced = clusters.map Cluster.unplaced ∧
      moved.map Node.unplaced = nodes.map Node.unplaced := by
  simp only [layout, bind, Except.bind, pure, Except.pure] at laid
  split at laid
  · cases laid
    exact ⟨rfl, rfl⟩
  · split at laid
    · cases laid
    · cases laid
      constructor
      · rw [List.map_map]
        apply List.map_congr_left
        intro cluster _
        simp only [Function.comp_apply]
        split <;> rfl
      · exact map_unplaced_placeMembers _ _ _ _

/-- A floating node stays where it is. -/
theorem mem_placeMembers_of_floating {targets : List (String × Target α)} {size : String → Nat}
    {slots : List (String × Nat)} {nodes : List (Node α)} {node : Node α} (node_mem : node ∈ nodes)
    (floating : node.cluster = none) : node ∈ placeMembers targets size slots nodes := by
  induction nodes generalizing slots with
  | nil => cases node_mem
  | cons first nodes induction =>
      simp only [placeMembers]
      rcases List.mem_cons.mp node_mem with rfl | rest_mem
      · simp [floating]
      · split
        · exact List.mem_cons_of_mem _ (induction rest_mem)
        · exact List.mem_cons_of_mem _ (induction rest_mem)

theorem mem_layout_of_floating {clusters placed : List (Cluster α)} {nodes moved : List (Node α)}
    {anchor : Option (Anchor α)} {canvas : Canvas α}
    (laid : layout clusters nodes anchor canvas = .ok (placed, moved)) {node : Node α}
    (node_mem : node ∈ nodes) (floating : node.cluster = none) : node ∈ moved := by
  simp only [layout, bind, Except.bind, pure, Except.pure] at laid
  split at laid
  · cases laid
    exact node_mem
  · split at laid
    · cases laid
    · cases laid
      exact mem_placeMembers_of_floating node_mem floating

end Layout
end ClusterDiagram
