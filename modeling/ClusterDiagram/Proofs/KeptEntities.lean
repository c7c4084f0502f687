import ClusterDiagram.Proofs.MergeContent

/-!
# What a merge keeps of the live diagram

A merged diagram has the keys of the new one. The first existing entity of a key lives on under its
id exactly when the new diagram mentions the key, and an edge is there only if the new diagram lists
it. None of this asks the new diagram to be valid.
-/

namespace ClusterDiagram
namespace Merge

variable {α : Type}

/-! ## Clusters -/

/-- Distinct ids that are not used are inherited as they are. -/
theorem inheritIds_eq_map {used : List String} {claims : List (Option (Cluster α))}
    (ids : (claims.reduceOption.map (·.id)).Nodup)
    (unused : ∀ found ∈ claims.reduceOption, found.id ∉ used) :
    (inheritIds used claims).1 = claims.map (Option.map (·.id)) := by
  induction claims generalizing used with
  | nil => rfl
  | cons claimed claims induction =>
      cases claimed with
      | none => simp only [inheritIds, induction ids unused, List.map_cons, Option.map_none]
      | some found =>
          rw [List.reduceOption_cons_of_some, List.map_cons, List.nodup_cons] at ids
          rw [List.reduceOption_cons_of_some, List.forall_mem_cons] at unused
          have rest_unused := FreshId.unused_cons ids.1 unused.2
          simp only [inheritIds, FreshId.fresh_of_not_mem unused.1, induction ids.2 rest_unused,
            List.map_cons, Option.map_some]

theorem getElem?_completeIds {used : List String} {entries : List (Option String × Cluster α)}
    {index : Nat} {id : String} {cluster : Cluster α}
    (inherited : entries[index]? = some (some id, cluster)) :
    (completeIds used entries)[index]? = some id := by
  induction entries generalizing used index with
  | nil => cases inherited
  | cons entry entries induction =>
      cases index with
      | zero =>
          cases inherited
          rfl
      | succ index =>
          obtain ⟨_ | first, other⟩ := entry
          · exact induction inherited
          · exact induction inherited

/-- A new cluster takes over the id of the existing one that it claims. -/
theorem getElem?_finalIds {parsed existing : List (Cluster α)} {index : Nat} {found : Cluster α}
    (claimed : (claim Cluster.key Cluster.id existing [] parsed)[index]? = some (some found)) :
    (finalIds parsed existing)[index]? = some found.id := by
  obtain ⟨index_lt, -⟩ := List.getElem?_eq_some_iff.mp claimed
  rw [length_claim] at index_lt
  have inherited : (((inheritIds [] (claim Cluster.key Cluster.id existing [] parsed)).1).zip
      parsed)[index]? = some (some found.id, parsed[index]) := by
    rw [inheritIds_eq_map (nodup_claim [] parsed) (by simp), List.getElem?_zip_eq_some]
    refine ⟨?_, List.getElem?_eq_getElem index_lt⟩
    rw [List.getElem?_map, claimed]
    rfl
  exact getElem?_completeIds inherited

/-- Merged clusters have the labels of the new ones. -/
theorem map_label_mergeClusters (parsed existing : List (Cluster α)) :
    (mergeClusters parsed existing).clusters.map (·.label) = parsed.map (·.label) := by
  have ids : ((renamedClusters parsed existing).map (·.id)).Nodup := by
    rw [map_id_renamedClusters]
    exact nodup_finalIds parsed existing
  have firsts : (parsed.zip ((finalIds parsed existing).zip
      (claim Cluster.key Cluster.id existing [] parsed))).map (·.1) = parsed := by
    apply List.map_fst_zip
    simp [length_finalIds, length_claim]
  rw [clusters_mergeClusters, breakCycles_eq_map ids, List.map_map, renamedClusters, List.map_map]
  conv_rhs => rw [← firsts, List.map_map]
  rfl

/-- The first existing cluster of a label lives on when the new clusters mention it. -/
theorem exists_cluster_of_mentioned {parsed existing : List (Cluster α)}
    (ids : (existing.map (·.id)).Nodup) {found : Cluster α}
    (first : existing.find? (fun other => other.key == found.key) = some found)
    (mentioned : found.key ∈ parsed.map Cluster.key) :
    ∃ cluster ∈ (mergeClusters parsed existing).clusters,
      cluster.id = found.id ∧ cluster.key = found.key := by
  obtain ⟨index, key_eq, takes⟩ := exists_takesOver first mentioned
  have id_eq := getElem?_finalIds ((getElem?_claim_iff ids).mpr ⟨takes, List.not_mem_nil⟩)
  rw [← map_id_mergeClusters, List.getElem?_map] at id_eq
  obtain ⟨cluster, cluster_eq, same⟩ := Option.map_eq_some_iff.mp id_eq
  refine ⟨cluster, List.mem_of_getElem? cluster_eq, same, ?_⟩
  have labels := congrArg (fun labels => (labels.map Text.foldKey)[index]?)
    (map_label_mergeClusters parsed existing)
  simp only [List.map_map, List.getElem?_map, cluster_eq, Option.map_some] at labels
  rw [List.getElem?_map] at key_eq
  exact Option.some.inj (labels.trans key_eq)

/-! ## Nodes -/

variable [Scalar α] {clusters : Clusters α} {canvasWidth : α} {draft after : NodeDraft α}
  {entries : List (Node α × Option (Node α))} {nodes : List (Node α)}

/-- Placed nodes have the labels and the aliases of the new ones. -/
theorem map_caption_placeNodes
    (placed : placeNodes clusters canvasWidth draft entries = .ok (nodes, after)) :
    nodes.map (fun node => (node.label, node.name)) =
      entries.map fun entry => (entry.1.label, entry.1.name) := by
  induction entries generalizing draft nodes with
  | nil =>
      cases placed
      rfl
  | cons entry entries induction =>
      obtain ⟨parsed, _ | found⟩ := entry
      · obtain ⟨place, rest, rfl, rest_placed⟩ := placeNodes_new placed
        rw [List.map_cons, List.map_cons, induction rest_placed]
      · obtain ⟨rest, rfl, rest_placed⟩ := placeNodes_inherited placed
        rw [List.map_cons, List.map_cons, induction rest_placed]
        rfl

/-- A node that claims an existing one takes its place. -/
theorem getElem?_placeNodes
    (placed : placeNodes clusters canvasWidth draft entries = .ok (nodes, after))
    {index : Nat} {parsed found : Node α} (claimed : entries[index]? = some (parsed, some found)) :
    nodes[index]? = some (inheritNode clusters parsed found) := by
  induction entries generalizing draft nodes index with
  | nil => cases claimed
  | cons entry entries induction =>
      obtain ⟨first, _ | other⟩ := entry
      · obtain ⟨place, rest, rfl, rest_placed⟩ := placeNodes_new placed
        cases index with
        | zero => cases claimed
        | succ index => exact induction rest_placed claimed
      · obtain ⟨rest, rfl, rest_placed⟩ := placeNodes_inherited placed
        cases index with
        | zero =>
            cases claimed
            rfl
        | succ index => exact induction rest_placed claimed

section Merged

variable {parsed merged : Graph α} {existing : List (Node α)} {existingClusters : List (Cluster α)}
  (done : merge parsed existing existingClusters canvasWidth = .ok merged)

include done

/-- Merged nodes have the labels and the aliases of the new ones. -/
theorem map_caption_of_merge :
    merged.nodes.map (fun node => (node.label, node.name)) =
      parsed.nodes.map fun node => (node.label, node.name) := by
  obtain ⟨mergedNodes, after, placed, rfl⟩ := placeNodes_of_merge done
  conv_rhs => rw [← map_fst_nodeEntries parsed existing, List.map_map]
  exact map_caption_placeNodes placed

theorem map_key_of_merge : merged.nodes.map Node.key = parsed.nodes.map Node.key := by
  have captions := congrArg (List.map fun caption => identityKey caption.1 caption.2)
    (map_caption_of_merge done)
  rwa [List.map_map, List.map_map] at captions

/-- A new node that takes over an existing one is merged as that one. -/
theorem exists_inherited_of_merge (ids : (existing.map (·.id)).Nodup) {index : Nat}
    {found : Node α} (takes : TakesOver Node.key existing parsed.nodes index found) :
    ∃ told, parsed.nodes[index]? = some told ∧ merged.nodes[index]? =
      some (inheritNode (mergeClusters parsed.clusters existingClusters) told found) := by
  obtain ⟨mergedNodes, after, placed, rfl⟩ := placeNodes_of_merge done
  have claimed := (getElem?_claim_iff ids).mpr ⟨takes, List.not_mem_nil⟩
  obtain ⟨told, told_at, -⟩ := takes
  exact ⟨told, told_at, getElem?_placeNodes placed
    (List.getElem?_zip_eq_some.mpr ⟨told_at, claimed⟩)⟩

/-- The first existing node of a key lives on when the new diagram mentions it. -/
theorem exists_node_of_mentioned (ids : (existing.map (·.id)).Nodup) {found : Node α}
    (first : existing.find? (fun other => other.key == found.key) = some found)
    (mentioned : found.key ∈ parsed.nodes.map Node.key) :
    ∃ node ∈ merged.nodes, node.id = found.id ∧ node.key = found.key := by
  obtain ⟨index, key_eq, takes⟩ := exists_takesOver first mentioned
  obtain ⟨told, told_at, node_at⟩ := exists_inherited_of_merge done ids takes
  refine ⟨_, List.mem_of_getElem? node_at, rfl, ?_⟩
  rw [List.getElem?_map, told_at] at key_eq
  exact Option.some.inj key_eq

end Merged

/-! ## Edges -/

omit [Scalar α] in
/-- An edge both of whose ends are known is merged. -/
theorem exists_mem_mergeEdges {ids : List (String × String)} {edges : List Edge} {told : Edge}
    (told_mem : told ∈ edges) {source target : String}
    (source_eq : ids.lookup told.source = some source)
    (target_eq : ids.lookup told.target = some target) (used : List String) :
    ∃ edge ∈ mergeEdges ids used edges, edge.source = source ∧ edge.target = target := by
  induction edges generalizing used with
  | nil => cases told_mem
  | cons first edges induction =>
      rcases List.mem_cons.mp told_mem with rfl | rest_mem
      · simp only [mergeEdges, source_eq, target_eq]
        exact ⟨_, List.mem_cons_self, rfl, rfl⟩
      · simp only [mergeEdges]
        split
        · obtain ⟨edge, edge_mem, ends⟩ := induction rest_mem _
          exact ⟨edge, List.mem_cons_of_mem _ edge_mem, ends⟩
        · exact induction rest_mem used

omit [Scalar α] in
/-- A merged edge joins the ends of a new one. -/
theorem exists_told_of_mem_mergeEdges {ids : List (String × String)} {used : List String}
    {edges : List Edge} {edge : Edge} (edge_mem : edge ∈ mergeEdges ids used edges) :
    ∃ told ∈ edges, ids.lookup told.source = some edge.source ∧
      ids.lookup told.target = some edge.target := by
  induction edges generalizing used with
  | nil => cases edge_mem
  | cons first edges induction =>
      simp only [mergeEdges] at edge_mem
      split at edge_mem
      · rename_i source target source_eq target_eq
        rcases List.mem_cons.mp edge_mem with rfl | rest_mem
        · exact ⟨first, List.mem_cons_self, source_eq, target_eq⟩
        · obtain ⟨told, told_mem, ends⟩ := induction rest_mem
          exact ⟨told, List.mem_cons_of_mem _ told_mem, ends⟩
      · obtain ⟨told, told_mem, ends⟩ := induction edge_mem
        exact ⟨told, List.mem_cons_of_mem _ told_mem, ends⟩

/-! ## All of it -/

omit [Scalar α] in
/-- Whether a node of a diagram has the key of one that the new diagram lists under a reference. -/
def StandsFor (parsed merged : Graph α) (reference id : String) : Prop :=
  ∃ told ∈ parsed.nodes, ∃ node ∈ merged.nodes,
    told.id = reference ∧ node.id = id ∧ node.key = told.key

/-- A diagram that holds what a new one lists, and of the live one only what that mentions. -/
structure Supersedes (live parsed merged : Graph α) : Prop where
  /-- The clusters are those of the new diagram. -/
  clusters : merged.clusters.map (·.label) = parsed.clusters.map (·.label)
  /-- The nodes are those of the new diagram. -/
  nodes : merged.nodes.map (fun node => (node.label, node.name)) =
    parsed.nodes.map fun node => (node.label, node.name)
  /-- The first live cluster of a key that is mentioned keeps its id. -/
  keptClusters : ∀ found, live.clusters.find? (fun other => other.key == found.key) = some found →
    found.key ∈ parsed.clusters.map Cluster.key →
      ∃ cluster ∈ merged.clusters, cluster.id = found.id ∧ cluster.key = found.key
  /-- The first live node of a key that is mentioned keeps its id. -/
  keptNodes : ∀ found, live.nodes.find? (fun other => other.key == found.key) = some found →
    found.key ∈ parsed.nodes.map Node.key →
      ∃ node ∈ merged.nodes, node.id = found.id ∧ node.key = found.key
  /-- Every edge is one of the new diagram. -/
  edges : ∀ edge ∈ merged.edges, ∃ told ∈ parsed.edges,
    StandsFor parsed merged told.source edge.source ∧
      StandsFor parsed merged told.target edge.target
  /-- Every edge of the new diagram is there, unless an end of it is not listed. -/
  keptEdges : ∀ told ∈ parsed.edges, told.source ∈ parsed.nodes.map (·.id) →
    told.target ∈ parsed.nodes.map (·.id) → ∃ edge ∈ merged.edges,
      StandsFor parsed merged told.source edge.source ∧
        StandsFor parsed merged told.target edge.target

omit [Scalar α] in
/-- Nodes at the same place of two lists of the same keys stand for each other. -/
theorem standsFor_of_mem_zip {parsed merged : Graph α}
    (keys : merged.nodes.map Node.key = parsed.nodes.map Node.key) {reference id : String}
    (pair_mem : (reference, id) ∈ (parsed.nodes.map (·.id)).zip (merged.nodes.map (·.id))) :
    StandsFor parsed merged reference id := by
  obtain ⟨index, pair_eq⟩ := List.mem_iff_getElem?.mp pair_mem
  obtain ⟨reference_eq, id_eq⟩ := List.getElem?_zip_eq_some.mp pair_eq
  rw [List.getElem?_map] at reference_eq id_eq
  obtain ⟨told, told_eq, told_id⟩ := Option.map_eq_some_iff.mp reference_eq
  obtain ⟨node, node_eq, node_id⟩ := Option.map_eq_some_iff.mp id_eq
  refine ⟨told, List.mem_of_getElem? told_eq, node, List.mem_of_getElem? node_eq, told_id,
    node_id, ?_⟩
  have key_eq := congrArg (fun keys => keys[index]?) keys
  simp only [List.getElem?_map, told_eq, node_eq, Option.map_some] at key_eq
  exact Option.some.inj key_eq

/-- Merging makes a new diagram supersede the live one. -/
theorem supersedes_of_merge {live parsed merged : Graph α}
    (clusterIds : (live.clusters.map (·.id)).Nodup) (nodeIds : (live.nodes.map (·.id)).Nodup)
    (done : merge parsed live.nodes live.clusters canvasWidth = .ok merged) :
    Supersedes live parsed merged := by
  have keys := map_key_of_merge done
  have nodes := map_caption_of_merge done
  have keptNodes := fun found => @exists_node_of_mentioned _ _ _ _ _ _ _ done nodeIds found
  obtain ⟨mergedNodes, after, placed, rfl⟩ := placeNodes_of_merge done
  have table := ids_placeNodes_perm placed
  rw [map_id_nodeEntries] at table
  have length_eq : (parsed.nodes.map (·.id)).length = (mergedNodes.map (·.id)).length := by
    simpa using (congrArg List.length keys).symm
  have listed {reference : String} (listed : reference ∈ parsed.nodes.map (·.id)) :
      ∃ id, after.ids.lookup reference = some id := by
    rw [← Option.isSome_iff_exists, Assoc.isSome_lookup_iff, (table.map Prod.fst).mem_iff,
      List.map_fst_zip length_eq.le]
    exact listed
  exact {
    clusters := map_label_mergeClusters parsed.clusters live.clusters
    nodes
    keptClusters := fun found first mentioned =>
      exists_cluster_of_mentioned clusterIds first mentioned
    keptNodes
    edges := by
      intro edge edge_mem
      obtain ⟨told, told_mem, source_eq, target_eq⟩ := exists_told_of_mem_mergeEdges edge_mem
      refine ⟨told, told_mem, standsFor_of_mem_zip keys ?_, standsFor_of_mem_zip keys ?_⟩
      · exact table.mem_iff.mp (Assoc.mem_of_lookup source_eq)
      · exact table.mem_iff.mp (Assoc.mem_of_lookup target_eq)
    keptEdges := by
      intro told told_mem source_mem target_mem
      obtain ⟨source, source_eq⟩ := listed source_mem
      obtain ⟨target, target_eq⟩ := listed target_mem
      obtain ⟨edge, edge_mem, rfl, rfl⟩ :=
        exists_mem_mergeEdges told_mem source_eq target_eq []
      refine ⟨edge, edge_mem, standsFor_of_mem_zip keys ?_, standsFor_of_mem_zip keys ?_⟩
      · exact table.mem_iff.mp (Assoc.mem_of_lookup source_eq)
      · exact table.mem_iff.mp (Assoc.mem_of_lookup target_eq) }

omit [Scalar α] in
/-- Coordinates, labels and styles of edges do not count. -/
theorem Supersedes.of_unplaced {live parsed merged drawn : Graph α}
    (supersedes : Supersedes live parsed merged)
    (clusters_eq : drawn.clusters.map Cluster.unplaced = merged.clusters.map Cluster.unplaced)
    (nodes_eq : drawn.nodes.map Node.unplaced = merged.nodes.map Node.unplaced)
    (edges_eq : drawn.edges.map (fun edge => (edge.source, edge.target)) =
      merged.edges.map fun edge => (edge.source, edge.target)) :
    Supersedes live parsed drawn := by
  have node_of {node : Node α} (node_mem : node ∈ merged.nodes) :
      ∃ other ∈ drawn.nodes, other.id = node.id ∧ other.key = node.key := by
    obtain ⟨other, other_mem, same⟩ := exists_mem_of_map_eq nodes_eq.symm node_mem
    have same_id := congrArg (fun node : Node Unit => node.id) same
    have same_key := congrArg Node.key same
    rw [Node.unplaced_key, Node.unplaced_key] at same_key
    exact ⟨other, other_mem, same_id, same_key⟩
  have stands {reference id : String} (stands : StandsFor parsed merged reference id) :
      StandsFor parsed drawn reference id := by
    obtain ⟨told, told_mem, node, node_mem, told_id, node_id, key_eq⟩ := stands
    obtain ⟨other, other_mem, id_eq, other_key⟩ := node_of node_mem
    exact ⟨told, told_mem, other, other_mem, told_id, id_eq.trans node_id,
      other_key.trans key_eq⟩
  have labels := congrArg (List.map fun cluster : Cluster Unit => cluster.label) clusters_eq
  have captions :=
    congrArg (List.map fun node : Node Unit => (node.label, node.name)) nodes_eq
  rw [List.map_map, List.map_map] at labels captions
  exact {
    clusters := labels.trans supersedes.clusters
    nodes := captions.trans supersedes.nodes
    keptClusters := by
      intro found first mentioned
      obtain ⟨cluster, cluster_mem, id_eq, key_eq⟩ :=
        supersedes.keptClusters found first mentioned
      obtain ⟨other, other_mem, same⟩ := exists_mem_of_map_eq clusters_eq.symm cluster_mem
      have same_id := congrArg (fun cluster : Cluster Unit => cluster.id) same
      have same_key := congrArg Cluster.key same
      rw [Cluster.unplaced_key, Cluster.unplaced_key] at same_key
      exact ⟨other, other_mem, same_id.trans id_eq, same_key.trans key_eq⟩
    keptNodes := by
      intro found first mentioned
      obtain ⟨node, node_mem, id_eq, key_eq⟩ := supersedes.keptNodes found first mentioned
      obtain ⟨other, other_mem, other_id, other_key⟩ := node_of node_mem
      exact ⟨other, other_mem, other_id.trans id_eq, other_key.trans key_eq⟩
    edges := by
      intro edge edge_mem
      obtain ⟨other, other_mem, ends⟩ := exists_mem_of_map_eq edges_eq edge_mem
      rw [Prod.mk.injEq] at ends
      obtain ⟨told, told_mem, source, target⟩ := supersedes.edges other other_mem
      exact ⟨told, told_mem, stands (ends.1 ▸ source), stands (ends.2 ▸ target)⟩
    keptEdges := by
      intro told told_mem source_mem target_mem
      obtain ⟨edge, edge_mem, source, target⟩ :=
        supersedes.keptEdges told told_mem source_mem target_mem
      obtain ⟨other, other_mem, ends⟩ := exists_mem_of_map_eq edges_eq.symm edge_mem
      rw [Prod.mk.injEq] at ends
      exact ⟨other, other_mem, stands (ends.1 ▸ source), stands (ends.2 ▸ target)⟩ }

end Merge
end ClusterDiagram
