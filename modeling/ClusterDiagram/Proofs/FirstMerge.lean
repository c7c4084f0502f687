import ClusterDiagram.Proofs.GroupLayout
import ClusterDiagram.Proofs.MergeContent

/-!
# Merging with nothing

A well-formed diagram that is merged with nothing keeps all its ids, its clusters and its edges.
Its nodes keep their contents, but every member of a cluster after the first one is moved to the
right of those before it.
-/

namespace ClusterDiagram
namespace Merge

variable {α : Type}

/-! ## Clusters -/

theorem claim_nil {β : Type} (key id : β → String) (claimed : List String) (entities : List β) :
    claim key id [] claimed entities = entities.map fun _ => none := by
  induction entities generalizing claimed with
  | nil => rfl
  | cons entity entities induction => simp only [claim, List.find?_nil, List.map_cons, induction]

theorem inheritIds_none {β : Type} (used : List String) (entities : List β) :
    inheritIds used (entities.map fun _ => (none : Option (Cluster α))) =
      (entities.map fun _ => none, used) := by
  induction entities with
  | nil => rfl
  | cons entity entities induction => simp only [List.map_cons, inheritIds, induction]

/-- Distinct ids that are not used are kept. -/
theorem completeIds_of_nodup {used : List String} {clusters : List (Cluster α)}
    (ids : (clusters.map (·.id)).Nodup) (unused : ∀ cluster ∈ clusters, cluster.id ∉ used) :
    completeIds used (clusters.map fun cluster => (none, cluster)) = clusters.map (·.id) := by
  induction clusters generalizing used with
  | nil => rfl
  | cons cluster clusters induction =>
      rw [List.map_cons, List.nodup_cons] at ids
      rw [List.forall_mem_cons] at unused
      simp only [List.map_cons, completeIds, FreshId.fresh_of_not_mem unused.1]
      rw [induction ids.2 (FreshId.unused_cons ids.1 unused.2)]

theorem finalIds_nil {clusters : List (Cluster α)} (ids : (clusters.map (·.id)).Nodup) :
    finalIds clusters [] = clusters.map (·.id) := by
  rw [finalIds, claim_nil, inheritIds_none]
  have entries : (clusters.map fun _ => (none : Option String)).zip clusters =
      clusters.map fun cluster => (none, cluster) := by
    conv_lhs => rw [← List.map_id clusters, List.map_map, List.zip_map']
    rfl
  rw [entries]
  exact completeIds_of_nodup ids (by simp)

section Clusters

variable {parsed : Graph α} (valid : parsed.Valid)
  (named : ∀ cluster ∈ parsed.clusters, cluster.id ≠ "")

include valid named

/-- References stay as they are. -/
theorem final?_nil {reference : Option String}
    (listed : ∀ id, reference = some id → id ∈ parsed.clusters.map (·.id)) :
    (mergeClusters parsed.clusters []).final? reference = reference := by
  obtain ⟨final, finals, found⟩ := exists_final valid.clusterIds []
  rw [finalIds_nil valid.clusterIds] at finals
  have kept : ∀ id ∈ parsed.clusters.map (·.id), final id = id := by
    intro id id_mem
    obtain ⟨cluster, cluster_mem, rfl⟩ := List.mem_map.mp id_mem
    exact (List.map_inj_left.mp finals cluster cluster_mem).symm
  have renamed : (mergeClusters parsed.clusters []).final? reference = reference.map final := by
    apply final?_eq_map
    intro id reference_eq
    have id_mem := listed id reference_eq
    obtain ⟨cluster, cluster_mem, rfl⟩ := List.mem_map.mp id_mem
    exact ⟨named cluster cluster_mem, found cluster.id id_mem⟩
  rw [renamed]
  cases reference with
  | none => rfl
  | some id => rw [Option.map_some, kept id (listed id rfl)]

theorem clusters_mergeClusters_nil :
    (mergeClusters parsed.clusters []).clusters = parsed.clusters := by
  have renamed : renamedClusters parsed.clusters [] = parsed.clusters := by
    have entries : parsed.clusters.zip ((finalIds parsed.clusters []).zip
        (claim Cluster.key Cluster.id [] [] parsed.clusters)) =
        parsed.clusters.map fun cluster => (cluster, cluster.id, none) := by
      rw [finalIds_nil valid.clusterIds, claim_nil, List.zip_map']
      conv_lhs => enter [1]; rw [← List.map_id parsed.clusters]
      rw [List.zip_map']
      rfl
    rw [renamedClusters, entries, List.map_map]
    conv_rhs => rw [← List.map_id parsed.clusters]
    apply List.map_congr_left
    intro cluster cluster_mem
    have parent_final := final?_nil valid named
      fun id parent_eq => (valid.parents cluster cluster_mem id parent_eq).1
    exact congrArg (fun parent => { cluster with parent }) parent_final
  rw [clusters_mergeClusters, renamed]
  exact breakCycles_of_ends valid.clusterIds valid.ends

end Clusters

/-! ## Nodes -/

theorem nodeEntries_nil (parsed : Graph α) :
    nodeEntries parsed [] = parsed.nodes.map fun node => (node, none) := by
  rw [nodeEntries, claim_nil]
  conv_lhs => enter [1]; rw [← List.map_id parsed.nodes]
  rw [List.zip_map']
  rfl

/-- Nothing is taken over. -/
theorem inheritedDraft_nil (clusters : Clusters α) (parsed : Graph α) :
    inheritedDraft clusters (nodeEntries parsed []) = { placed := [], used := [], ids := [] } := by
  have inherited : inheritNodes clusters (nodeEntries parsed []) = [] := by
    rw [inheritNodes, nodeEntries_nil, List.filterMap_map, List.filterMap_eq_nil_iff]
    exact fun _ _ => rfl
  rw [inheritedDraft, inherited]
  rfl

/-- A node that has a position keeps it as long as its cluster has no placed member. -/
theorem newPlace_of_first [Scalar α] {node : Node α} {placed : List (Node α)}
    (isPlaced : node.isPlaced = true)
    (first : ∀ id, node.cluster = some id → Layout.membersOf placed id = [])
    (clusters : List (Cluster α)) (canvasWidth : α) :
    newPlace node.cluster node placed clusters canvasWidth = .ok ⟨node.x, node.y⟩ := by
  have alone : (if node.cluster.isNone then [] else
      placed.filter fun other => other.cluster == node.cluster && other.isPlaced) = [] := by
    cases own : node.cluster with
    | none => rfl
    | some id =>
        rw [if_neg (by simp), List.filter_eq_nil_iff]
        intro other other_mem
        have others := List.filter_eq_nil_iff.mp (first id own) other other_mem
        simp [others]
  rw [newPlace]
  simp only [alone, rightmost?, isPlaced, if_true]

/-- Whatever the place of a node that has a position depends on, it has one. -/
theorem exists_newPlace_ok [Scalar α] {node : Node α} (isPlaced : node.isPlaced = true)
    (placed : List (Node α)) (clusters : List (Cluster α)) (canvasWidth : α) :
    ∃ place, newPlace node.cluster node placed clusters canvasWidth = .ok place := by
  simp only [newPlace, isPlaced, if_true]
  split <;> exact ⟨_, rfl⟩

/-- Nodes with positions that take over nothing keep their contents, and those without company
their places. -/
theorem placeNodes_of_new [Scalar α] {clusters : Clusters α} (canvasWidth : α)
    {draft : NodeDraft α} {nodes : List (Node α)}
    (isPlaced : ∀ node ∈ nodes, node.isPlaced = true)
    (references : ∀ node ∈ nodes, clusters.final? node.cluster = node.cluster)
    (ids : (nodes.map (·.id)).Nodup) (unused : ∀ node ∈ nodes, node.id ∉ draft.used) :
    ∃ moved after, placeNodes clusters canvasWidth draft (nodes.map fun node => (node, none)) =
        .ok (moved, after) ∧
      List.Forall₂ (fun node other => other.unplaced = node.unplaced ∧
        (Layout.Alone (draft.placed ++ nodes) node → other = node)) nodes moved := by
  induction nodes generalizing draft with
  | nil => exact ⟨[], draft, rfl, List.Forall₂.nil⟩
  | cons node nodes induction =>
      rw [List.forall_mem_cons] at isPlaced references unused
      rw [List.map_cons, List.nodup_cons] at ids
      obtain ⟨place, place_eq⟩ :=
        exists_newPlace_ok isPlaced.1 draft.placed clusters.clusters canvasWidth
      have id_eq := FreshId.fresh_of_not_mem unused.1
      let first : Node α := { node with x := place.x, y := place.y }
      let next : NodeDraft α :=
        { placed := draft.placed ++ [first]
          used := node.id :: draft.used
          ids := (node.id, node.id) :: draft.ids }
      have rest_unused : ∀ other ∈ nodes, other.id ∉ next.used :=
        FreshId.unused_cons ids.1 unused.2
      obtain ⟨moved, after, placed, agree⟩ :=
        induction isPlaced.2 references.2 ids.2 rest_unused
      refine ⟨first :: moved, after, ?_, List.Forall₂.cons ⟨rfl, fun alone => ?_⟩ ?_⟩
      · simp only [List.map_cons, placeNodes, references.1, place_eq, id_eq, bind, Except.bind]
        change (placeNodes clusters canvasWidth next _ >>= _) = _
        rw [placed]
        rfl
      · have none_before : ∀ id, node.cluster = some id →
            Layout.membersOf draft.placed id = [] := by
          intro id own
          have few := alone id own
          rw [Layout.membersOf, List.filter_append, List.filter_cons, if_pos (beq_iff_eq.mpr own),
            List.length_append, List.length_cons] at few
          exact List.length_eq_zero_iff.mp (by rw [Layout.membersOf]; omega)
        have place_own := newPlace_of_first isPlaced.1 none_before clusters.clusters canvasWidth
        obtain rfl := Except.ok.inj (place_eq.symm.trans place_own)
        rfl
      · refine agree.imp fun other image rest => ⟨rest.1, fun alone => rest.2 fun id own => ?_⟩
        have same_count : (Layout.membersOf (next.placed ++ nodes) id).length =
            (Layout.membersOf (draft.placed ++ node :: nodes) id).length := by
          have same_cluster : first.cluster = node.cluster := rfl
          simp only [next, Layout.membersOf, List.filter_append, List.filter_cons, same_cluster]
          split <;> simp
        exact same_count.trans_le (alone id own)

/-! ## Edges -/

/-- Edges with distinct ids whose ends keep their ids stay as they are. -/
theorem mergeEdges_of_kept {ids : List (String × String)} {used : List String} {edges : List Edge}
    (known : ∀ edge ∈ edges, ids.lookup edge.source = some edge.source ∧
      ids.lookup edge.target = some edge.target)
    (edgeIds : (edges.map (·.id)).Nodup) (unused : ∀ edge ∈ edges, edge.id ∉ used) :
    mergeEdges ids used edges = edges := by
  induction edges generalizing used with
  | nil => rfl
  | cons edge edges induction =>
      rw [List.forall_mem_cons] at known unused
      rw [List.map_cons, List.nodup_cons] at edgeIds
      simp only [mergeEdges, known.1, FreshId.fresh_of_not_mem unused.1]
      rw [induction known.2 edgeIds.2 (FreshId.unused_cons edgeIds.1 unused.2)]

/-! ## All of it -/

/-- A well-formed diagram whose nodes have positions is merged with nothing as itself, up to the
places of nodes that share their clusters. -/
theorem merge_nothing [Scalar α] {parsed : Graph α} (wellFormed : parsed.WellFormed)
    (named : ∀ cluster ∈ parsed.clusters, cluster.id ≠ "")
    (isPlaced : ∀ node ∈ parsed.nodes, node.isPlaced = true) (canvasWidth : α) :
    ∃ moved, merge parsed [] [] canvasWidth = .ok { parsed with nodes := moved } ∧
      Layout.SameOutsideGroups parsed.nodes moved := by
  have valid := wellFormed.toValid
  have unused : ∀ node ∈ parsed.nodes, node.id ∉ (inheritedDraft
      (mergeClusters parsed.clusters []) (nodeEntries parsed [])).used := by
    rw [inheritedDraft_nil]
    exact fun _ _ => List.not_mem_nil
  obtain ⟨moved, after, placed, agree⟩ := placeNodes_of_new canvasWidth isPlaced
    (fun node node_mem => final?_nil valid named (valid.memberships node node_mem)) valid.nodeIds
    unused
  rw [← nodeEntries_nil] at placed
  rw [inheritedDraft_nil] at agree
  have done := merge_of_placeNodes placed
  have same : Layout.SameOutsideGroups parsed.nodes moved := agree
  have ids : moved.map (·.id) = parsed.nodes.map (·.id) := by
    rw [← Node.map_id_unplaced, same.map_unplaced, Node.map_id_unplaced]
  have first_ids := map_id_nodeEntries parsed []
  have known {id : String} (id_mem : id ∈ parsed.nodes.map (·.id)) :
      after.ids.lookup id = some id :=
    lookup_ids_of_placeNodes (fun id => id) placed (first_ids ▸ valid.nodeIds)
      (ids.trans first_ids.symm) (first_ids ▸ id_mem)
  have edges_eq : mergeEdges after.ids [] parsed.edges = parsed.edges := by
    refine mergeEdges_of_kept (fun edge edge_mem => ?_) wellFormed.edgeIds (by simp)
    obtain ⟨source_mem, target_mem⟩ := valid.endpoints edge edge_mem
    exact ⟨known source_mem, known target_mem⟩
  refine ⟨moved, ?_, same⟩
  rw [done, clusters_mergeClusters_nil valid named, edges_eq]

end Merge
end ClusterDiagram
