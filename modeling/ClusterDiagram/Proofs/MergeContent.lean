import ClusterDiagram.Proofs.MergeValidity
import ClusterDiagram.Proofs.Skeleton

/-!
# Merging keeps what was read

A valid diagram is merged as a copy of itself, so that the merged diagram has the skeleton of the
new one, whatever exists already. Existing entities whose keys the new diagram does not mention have
no influence on the result.
-/

namespace ClusterDiagram
namespace Merge

variable {α : Type}

/-! ## Clusters -/

/-- Every new cluster gets a final id, under which references to it are found. -/
theorem exists_final {parsed : List (Cluster α)} (ids : (parsed.map (·.id)).Nodup)
    (existing : List (Cluster α)) : ∃ final : String → String,
      finalIds parsed existing = parsed.map (fun cluster => final cluster.id) ∧
        ∀ id ∈ parsed.map (·.id),
          (mergeClusters parsed existing).ids.lookup id = some (final id) := by
  have length_eq : (parsed.map (·.id)).length = (finalIds parsed existing).length := by
    rw [List.length_map, length_finalIds]
  obtain ⟨final, final_eq⟩ := exists_map_eq ids length_eq
  refine ⟨final, ?_, fun id id_mem => ?_⟩
  · rw [← final_eq, List.map_map]
    rfl
  · rw [lookup_ids_mergeClusters]
    apply Assoc.lookup_of_mem
    · rwa [List.map_fst_zip length_eq.le]
    · rw [← final_eq, ← List.map_prod_left_eq_zip]
      exact List.mem_map_of_mem id_mem

/-- A reference to a cluster leads to its final id. -/
theorem final?_eq_map {clusters : Clusters α} {final : String → String} {reference : Option String}
    (known : ∀ id, reference = some id → id ≠ "" ∧ clusters.ids.lookup id = some (final id)) :
    clusters.final? reference = reference.map final := by
  cases reference with
  | none => rfl
  | some id =>
      obtain ⟨filled, found⟩ := known id rfl
      have kept : Text.nonempty (some id) = some id := by
        simp [Text.nonempty, filled]
      rw [Clusters.final?, kept, Option.bind_some, found, Option.map_some]

theorem map_unplaced_renamedClusters {parsed existing : List (Cluster α)} {rename : Renaming}
    (ids : finalIds parsed existing = parsed.map fun cluster => rename.cluster cluster.id)
    (references : ∀ cluster ∈ parsed,
      (mergeClusters parsed existing).final? cluster.parent = cluster.parent.map rename.cluster) :
    (renamedClusters parsed existing).map Cluster.unplaced = parsed.map rename.ofCluster := by
  have firsts : ((finalIds parsed existing).zip
      (claim Cluster.key Cluster.id existing [] parsed)).map Prod.fst = finalIds parsed existing :=
    List.map_fst_zip (by rw [length_finalIds, length_claim])
  have entries : (parsed.zip ((finalIds parsed existing).zip
      (claim Cluster.key Cluster.id existing [] parsed))).map (Prod.map id Prod.fst) =
      parsed.map fun cluster => (cluster, rename.cluster cluster.id) := by
    rw [← List.zip_map, firsts, ids, List.zip_map']
    rfl
  have contents := congrArg (List.map fun entry : Cluster α × String =>
    ({ id := entry.2
       label := entry.1.label
       parent := (mergeClusters parsed existing).final? entry.1.parent } : Cluster Unit)) entries
  rw [List.map_map, List.map_map] at contents
  rw [renamedClusters, List.map_map]
  refine contents.trans (List.map_congr_left fun cluster cluster_mem => ?_)
  rw [Function.comp_apply, references cluster cluster_mem]
  rfl

/-- The clusters of a valid diagram are merged as a copy of them: none is detached. -/
theorem map_unplaced_mergeClusters {parsed : Graph α} (valid : parsed.Valid)
    {existing : List (Cluster α)} {rename : Renaming}
    (ids : finalIds parsed.clusters existing =
      parsed.clusters.map fun cluster => rename.cluster cluster.id)
    (references : ∀ cluster ∈ parsed.clusters,
      (mergeClusters parsed.clusters existing).final? cluster.parent =
        cluster.parent.map rename.cluster) :
    (mergeClusters parsed.clusters existing).clusters.map Cluster.unplaced =
      parsed.clusters.map rename.ofCluster := by
  let forest : Graph α := { clusters := parsed.clusters }
  let renamed : Graph α := { clusters := renamedClusters parsed.clusters existing }
  have forest_valid : forest.Valid := {
    clusterIds := valid.clusterIds
    nodeIds := List.nodup_nil
    parents := valid.parents
    ends := valid.ends
    memberships := by rintro _ ⟨⟩
    endpoints := by rintro _ ⟨⟩ }
  have copied : forest.CopiedBy rename renamed := {
    clusters := map_unplaced_renamedClusters ids references
    nodes := rfl
    edges := rfl }
  have renamed_ids : (renamed.clusters.map (·.id)).Nodup := by
    rw [map_id_renamedClusters]
    exact nodup_finalIds parsed.clusters existing
  have renamed_valid := copied.valid forest_valid renamed_ids List.nodup_nil
  rw [clusters_mergeClusters, breakCycles_of_ends renamed_ids renamed_valid.ends]
  exact copied.clusters

/-! ## Nodes -/

section Nodes

variable [Scalar α] {clusters : Clusters α} {canvasWidth : α} {draft after : NodeDraft α}
  {entries : List (Node α × Option (Node α))} {nodes : List (Node α)}

theorem length_placeNodes
    (placed : placeNodes clusters canvasWidth draft entries = .ok (nodes, after)) :
    nodes.length = entries.length := by
  induction entries generalizing draft nodes with
  | nil =>
      cases placed
      rfl
  | cons entry entries induction =>
      obtain ⟨parsed, _ | found⟩ := entry
      · obtain ⟨place, rest, rfl, rest_placed⟩ := placeNodes_new placed
        rw [List.length_cons, List.length_cons, induction rest_placed]
      · obtain ⟨rest, rfl, rest_placed⟩ := placeNodes_inherited placed
        rw [List.length_cons, List.length_cons, induction rest_placed]

/-- Merging neither drops nor adds clusters and nodes. -/
theorem length_of_merge {parsed merged : Graph α} {existing : List (Node α)}
    {clusters : List (Cluster α)} (done : merge parsed existing clusters canvasWidth = .ok merged) :
    merged.clusters.length = parsed.clusters.length ∧
      merged.nodes.length = parsed.nodes.length := by
  obtain ⟨mergedNodes, after, placed, rfl⟩ := placeNodes_of_merge done
  constructor
  · have ids := congrArg List.length (map_id_mergeClusters parsed.clusters clusters)
    rwa [List.length_map, length_finalIds] at ids
  · have entries := congrArg List.length (map_fst_nodeEntries parsed existing)
    rw [List.length_map] at entries
    exact (length_placeNodes placed).trans entries

/-- The ids that are taken over, each with the new id that it replaces. -/
def inheritedPairs (entries : List (Node α × Option (Node α))) : List (String × String) :=
  entries.filterMap fun entry => entry.2.map fun found => (entry.1.id, found.id)

omit [Scalar α] in
theorem ids_inheritedDraft_eq (clusters : Clusters α) (entries : List (Node α × Option (Node α))) :
    (inheritedDraft clusters entries).ids = (inheritedPairs entries).reverse := by
  have pairs : inheritedPairs entries =
      (inheritNodes clusters entries).map fun entry => (entry.1.id, entry.2.id) := by
    rw [inheritedPairs, inheritNodes, List.map_filterMap]
    apply List.filterMap_congr
    rintro ⟨parsed, _ | found⟩ _ <;> rfl
  rw [inheritedDraft, pairs]

/-- Every new node adds its id to the table, and those taken over are in it from the start. -/
theorem perm_ids_placeNodes
    (placed : placeNodes clusters canvasWidth draft entries = .ok (nodes, after)) :
    (after.ids ++ inheritedPairs entries).Perm
      (draft.ids ++ (entries.map (·.1.id)).zip (nodes.map (·.id))) := by
  induction entries generalizing draft nodes with
  | nil =>
      cases placed
      exact List.Perm.refl _
  | cons entry entries induction =>
      obtain ⟨parsed, _ | found⟩ := entry
      · obtain ⟨place, rest, rfl, rest_placed⟩ := placeNodes_new placed
        exact (induction rest_placed).trans List.perm_middle.symm
      · obtain ⟨rest, rfl, rest_placed⟩ := placeNodes_inherited placed
        have grown := (induction rest_placed).cons (parsed.id, found.id)
        exact List.perm_middle.trans (grown.trans List.perm_middle.symm)

/-- The table of ids pairs the new nodes with the placed ones. -/
theorem ids_placeNodes_perm
    (placed : placeNodes clusters canvasWidth (inheritedDraft clusters entries) entries =
      .ok (nodes, after)) :
    after.ids.Perm ((entries.map (·.1.id)).zip (nodes.map (·.id))) := by
  have grown := perm_ids_placeNodes placed
  rw [ids_inheritedDraft_eq] at grown
  have moved := grown.trans ((List.reverse_perm _).append_right _)
  exact (List.perm_append_left_iff _).mp (List.perm_append_comm.trans moved)

/-- The table of ids leads from every new node to the one that was placed for it. -/
theorem lookup_ids_of_placeNodes (place : String → String)
    (placed : placeNodes clusters canvasWidth (inheritedDraft clusters entries) entries =
      .ok (nodes, after))
    (entryIds : (entries.map (·.1.id)).Nodup)
    (places : nodes.map (·.id) = entries.map fun entry => place entry.1.id) {id : String}
    (id_mem : id ∈ entries.map (·.1.id)) : after.ids.lookup id = some (place id) := by
  have table := ids_placeNodes_perm placed
  rw [places, List.zip_map'] at table
  obtain ⟨entry, entry_mem, rfl⟩ := List.mem_map.mp id_mem
  apply Assoc.lookup_of_mem
  · rw [(table.map _).nodup_iff, List.map_map]
    exact entryIds
  · exact table.mem_iff.mpr
      (List.mem_map.mpr ⟨entry, entry_mem, rfl⟩)

theorem map_unplaced_placeNodes {rename : Renaming}
    (placed : placeNodes clusters canvasWidth draft entries = .ok (nodes, after))
    (ids : nodes.map (·.id) = entries.map fun entry => rename.node entry.1.id)
    (references : ∀ entry ∈ entries,
      clusters.final? entry.1.cluster = entry.1.cluster.map rename.cluster) :
    nodes.map Node.unplaced = entries.map fun entry => rename.ofNode entry.1 := by
  induction entries generalizing draft nodes with
  | nil =>
      cases placed
      rfl
  | cons entry entries induction =>
      rw [List.forall_mem_cons] at references
      obtain ⟨reference, references⟩ := references
      obtain ⟨parsed, _ | found⟩ := entry
      · obtain ⟨place, rest, rfl, rest_placed⟩ := placeNodes_new placed
        rw [List.map_cons, List.map_cons, List.cons.injEq] at ids
        rw [List.map_cons, List.map_cons, induction rest_placed ids.2 references, Node.unplaced,
          Renaming.ofNode, ← reference, ← ids.1]
      · obtain ⟨rest, rfl, rest_placed⟩ := placeNodes_inherited placed
        rw [List.map_cons, List.map_cons, List.cons.injEq] at ids
        rw [List.map_cons, List.map_cons, induction rest_placed ids.2 references, Node.unplaced,
          Renaming.ofNode, ← reference, ← ids.1]
        rfl

end Nodes

/-! ## Edges -/

/-- Edges whose ends are known are merged one by one. -/
theorem map_unnamed_mergeEdges {rename : Renaming} {ids : List (String × String)}
    {edges : List Edge}
    (known : ∀ edge ∈ edges, ids.lookup edge.source = some (rename.node edge.source) ∧
      ids.lookup edge.target = some (rename.node edge.target)) (used : List String) :
    (mergeEdges ids used edges).map Edge.unnamed = edges.map rename.ofEdge := by
  induction edges generalizing used with
  | nil => rfl
  | cons edge edges induction =>
      rw [List.forall_mem_cons] at known
      simp only [mergeEdges, known.1]
      rw [List.map_cons, List.map_cons, induction known.2]
      rfl

/-! ## All of it -/

/-- A valid diagram is merged as a copy of itself. -/
theorem exists_copiedBy_of_merge [Scalar α] {parsed merged : Graph α} {nodes : List (Node α)}
    {clusters : List (Cluster α)} {canvasWidth : α} (valid : parsed.Valid)
    (named : ∀ cluster ∈ parsed.clusters, cluster.id ≠ "")
    (done : merge parsed nodes clusters canvasWidth = .ok merged) :
    ∃ rename, parsed.CopiedBy rename merged := by
  obtain ⟨mergedNodes, after, placed, rfl⟩ := placeNodes_of_merge done
  obtain ⟨final, finals, found⟩ := exists_final valid.clusterIds clusters
  have firsts := map_fst_nodeEntries parsed nodes
  have first_ids := map_id_nodeEntries parsed nodes
  have length_eq : (parsed.nodes.map (·.id)).length = (mergedNodes.map (·.id)).length := by
    rw [← first_ids, List.length_map, List.length_map, length_placeNodes placed]
  obtain ⟨place, places⟩ := exists_map_eq valid.nodeIds length_eq
  let rename : Renaming := ⟨final, place⟩
  have references {reference : Option String}
      (listed : ∀ id, reference = some id → id ∈ parsed.clusters.map (·.id)) :
      (mergeClusters parsed.clusters clusters).final? reference = reference.map final := by
    apply final?_eq_map
    intro id reference_eq
    have id_mem := listed id reference_eq
    obtain ⟨cluster, cluster_mem, rfl⟩ := List.mem_map.mp id_mem
    exact ⟨named cluster cluster_mem, found _ id_mem⟩
  have ids : mergedNodes.map (·.id) =
      (nodeEntries parsed nodes).map fun entry => rename.node entry.1.id := by
    rw [← places, ← first_ids, List.map_map]
    rfl
  have lookups {id : String} (id_mem : id ∈ parsed.nodes.map (·.id)) :
      after.ids.lookup id = some (rename.node id) :=
    lookup_ids_of_placeNodes place placed (first_ids ▸ valid.nodeIds) ids (first_ids ▸ id_mem)
  refine ⟨rename, ?_, ?_, ?_⟩
  · exact map_unplaced_mergeClusters valid finals fun cluster cluster_mem =>
      references fun id parent_eq => (valid.parents cluster cluster_mem id parent_eq).1
  · rw [map_unplaced_placeNodes placed ids fun entry entry_mem =>
      references fun id cluster_eq => valid.memberships entry.1
        (firsts ▸ List.mem_map_of_mem entry_mem) id cluster_eq]
    conv_rhs => rw [← firsts, List.map_map]
    rfl
  · apply map_unnamed_mergeEdges
    intro edge edge_mem
    obtain ⟨source_mem, target_mem⟩ := valid.endpoints edge edge_mem
    exact ⟨lookups source_mem, lookups target_mem⟩

/-! ## What is not mentioned -/

/-- The existing entities that share a key with a new one. -/
def mentioned {β : Type} (key : β → String) (parsed existing : List β) : List β :=
  existing.filter fun other => (parsed.map key).contains (key other)

/-- Nothing is claimed but what is mentioned. -/
theorem claim_mentioned {β : Type} {key id : β → String} {parsed : List β} (existing : List β)
    (claimed : List String) {entities : List β} (within : entities ⊆ parsed) :
    claim key id (mentioned key parsed existing) claimed entities =
      claim key id existing claimed entities := by
  induction entities generalizing claimed with
  | nil => rfl
  | cons entity entities induction =>
      rw [List.cons_subset] at within
      have first : ((mentioned key parsed existing).find? fun other => key other == key entity) =
          existing.find? fun other => key other == key entity := by
        rw [mentioned, List.find?_filter]
        congr 1
        funext other
        by_cases same : key other = key entity
        · simp only [same, List.contains_eq_mem]
          simpa using ⟨entity, within.1, rfl⟩
        · simp [same]
      simp only [claim, first, induction _ within.2]

/-- Existing entities that are not mentioned might as well not be there. -/
theorem merge_mentioned [Scalar α] (parsed : Graph α) (nodes : List (Node α))
    (clusters : List (Cluster α)) (canvasWidth : α) :
    merge parsed (mentioned Node.key parsed.nodes nodes)
        (mentioned Cluster.key parsed.clusters clusters) canvasWidth =
      merge parsed nodes clusters canvasWidth := by
  simp only [merge, mergeClusters, claim_mentioned _ _ (List.Subset.refl _)]

/-- What is read decides what there is: whatever exists already, merging a valid diagram gives a
well-formed one that holds the same clusters, nodes and edges in the same order, joined in the same
way. Nothing depends on what is not mentioned. -/
theorem skeleton_merge [Scalar α] {parsed : Graph α} (valid : parsed.Valid)
    (named : ∀ cluster ∈ parsed.clusters, cluster.id ≠ "") (nodes : List (Node α))
    (clusters : List (Cluster α)) (canvasWidth : α) :
    (∀ merged, merge parsed nodes clusters canvasWidth = .ok merged →
        merged.WellFormed ∧ merged.skeleton = parsed.skeleton) ∧
      merge parsed (mentioned Node.key parsed.nodes nodes)
          (mentioned Cluster.key parsed.clusters clusters) canvasWidth =
        merge parsed nodes clusters canvasWidth ∧
      (Placement.FiniteWidth canvasWidth →
        ∃ merged, merge parsed nodes clusters canvasWidth = .ok merged) := by
  refine ⟨fun merged done => ?_, merge_mentioned parsed nodes clusters canvasWidth,
    exists_merge_ok parsed nodes clusters⟩
  have wellFormed := wellFormed_of_merge done
  obtain ⟨rename, copied⟩ := exists_copiedBy_of_merge valid named done
  exact ⟨wellFormed, copied.skeleton_eq valid wellFormed.clusterIds wellFormed.nodeIds⟩

/-- A diagram that was read after its two clusters changed places. -/
private def swapped : Graph Float :=
  { clusters := [⟨"front", "Front", none, none, none⟩, ⟨"back", "Back", some "front", none, none⟩]
    nodes := [⟨"api", "API", none, 0, 0, some "back"⟩, ⟨"queue", "Queue", some "Q", 0, 0, none⟩,
      ⟨"cache", "Cache", none, 0, 0, some "front"⟩]
    edges := [⟨"e1", "api", "queue", some "pushes", .dashed⟩,
      ⟨"e2", "cache", "api", none, .solid⟩] }

/-- What existed before: the ids of the clusters and of two nodes are exchanged, an id is taken
twice, and there is more than what was read. -/
private def standing : Graph Float :=
  { clusters := [⟨"back", "front", none, some 80, some 60⟩, ⟨"front", "BACK", none, none, none⟩,
      ⟨"front", "Attic", none, none, none⟩]
    nodes := [⟨"queue", "api", none, 120, 80, some "back"⟩,
      ⟨"api", "queue", some "q", 240, 80, none⟩, ⟨"cache", "Store", none, 360, 80, some "front"⟩]
    edges := [] }

theorem skeleton_merge_swapped :
    swapped.Valid ∧ (∀ cluster ∈ swapped.clusters, cluster.id ≠ "") ∧
      ∃ merged, merge swapped standing.nodes standing.clusters 2000 = .ok merged ∧
        merged.skeleton =
          { clusters := [("Front", none), ("Back", some 0)]
            nodes := [("API", none, some 1), ("Queue", some "Q", none), ("Cache", none, some 0)]
            edges := [(0, 1, some "pushes", .dashed), (2, 0, none, .solid)] } := by
  have valid : swapped.Valid := Graph.valid_of_violations (by decide +kernel)
  have named : ∀ cluster ∈ swapped.clusters, cluster.id ≠ "" := by decide
  have finite : Placement.FiniteWidth (2000 : Float) :=
    (Placement.finiteWidth_double_iff 2000).mpr ⟨_, _, _, rfl⟩
  obtain ⟨kept, -, given⟩ := skeleton_merge valid named standing.nodes standing.clusters 2000
  obtain ⟨merged, done⟩ := given finite
  exact ⟨valid, named, merged, done, (kept merged done).2.trans (by decide)⟩

end Merge
end ClusterDiagram
