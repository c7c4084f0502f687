import ClusterDiagram.Merge.Basic
import ClusterDiagram.Proofs.ClusterMerge
import ClusterDiagram.Proofs.FiniteCanvas

/-!
# Merged diagrams are well-formed

Whatever is merged with whatever, the result has unique ids, its references lead to entities of its
own and no cluster lies below itself. Merging fails only where a canvas of no finite width leaves a
new node without a place.
-/

namespace ClusterDiagram
namespace Merge

variable {α : Type}

/-! ## Placing nodes -/

section Placing

variable [Scalar α] {clusters : Clusters α} {canvasWidth : α} {draft after : NodeDraft α}
  {entries : List (Node α × Option (Node α))} {nodes : List (Node α)}

/-- A node that takes over an existing one is listed as it is. -/
theorem placeNodes_inherited {parsed found : Node α}
    (placed : placeNodes clusters canvasWidth draft ((parsed, some found) :: entries) =
      .ok (nodes, after)) :
    ∃ rest, nodes = inheritNode clusters parsed found :: rest ∧
      placeNodes clusters canvasWidth draft entries = .ok (rest, after) := by
  simp only [placeNodes, bind, Except.bind, pure, Except.pure] at placed
  split at placed
  · cases placed
  · rename_i out rest_placed
    cases placed
    exact ⟨out.1, rfl, rest_placed⟩

/-- A new node gets a fresh id and a place, and counts for those that follow. -/
theorem placeNodes_new {parsed : Node α}
    (placed : placeNodes clusters canvasWidth draft ((parsed, none) :: entries) =
      .ok (nodes, after)) :
    ∃ place : Point α, ∃ rest,
      let id := FreshId.fresh parsed.id draft.used
      let node : Node α :=
        { parsed with id, x := place.x, y := place.y, cluster := clusters.final? parsed.cluster }
      nodes = node :: rest ∧
        placeNodes clusters canvasWidth
          { placed := draft.placed ++ [node]
            used := id :: draft.used
            ids := (parsed.id, id) :: draft.ids } entries = .ok (rest, after) := by
  simp only [placeNodes, bind, Except.bind, pure, Except.pure] at placed
  split at placed
  · cases placed
  · rename_i place _
    split at placed
    · cases placed
    · rename_i out rest_placed
      cases placed
      exact ⟨place, out.1, rfl, rest_placed⟩

/-- On a canvas of finite width every node finds a place. -/
theorem placeNodes_ok (finite : Placement.FiniteWidth canvasWidth) (clusters : Clusters α)
    (draft : NodeDraft α) (entries : List (Node α × Option (Node α))) :
    ∃ out, placeNodes clusters canvasWidth draft entries = .ok out := by
  induction entries generalizing draft with
  | nil => exact ⟨([], draft), rfl⟩
  | cons entry entries induction =>
      obtain ⟨parsed, _ | found⟩ := entry
      · obtain ⟨place, place_eq⟩ : ∃ place, newPlace (clusters.final? parsed.cluster) parsed
            draft.placed clusters.clusters canvasWidth = .ok place := by
          simp only [newPlace]
          split
          · exact ⟨_, rfl⟩
          · split
            · exact ⟨_, rfl⟩
            · exact finite.nodeSlot _ _
        simp only [placeNodes, bind, Except.bind, pure, Except.pure, place_eq]
        obtain ⟨out, rest_placed⟩ := induction
          { placed := draft.placed ++ [{ parsed with
              id := FreshId.fresh parsed.id draft.used
              x := place.x
              y := place.y
              cluster := clusters.final? parsed.cluster }]
            used := FreshId.fresh parsed.id draft.used :: draft.used
            ids := (parsed.id, FreshId.fresh parsed.id draft.used) :: draft.ids }
        rw [rest_placed]
        exact ⟨_, rfl⟩
      · obtain ⟨out, rest_placed⟩ := induction draft
        simp only [placeNodes, bind, Except.bind, pure, Except.pure, rest_placed]
        exact ⟨_, rfl⟩

/-- The id of a placed node is inherited or new. -/
theorem id_of_mem_placeNodes
    (placed : placeNodes clusters canvasWidth draft entries = .ok (nodes, after))
    {node : Node α} (node_mem : node ∈ nodes) :
    node.id ∈ (entries.map (·.2)).reduceOption.map (·.id) ∨ node.id ∉ draft.used := by
  induction entries generalizing draft nodes with
  | nil =>
      cases placed
      cases node_mem
  | cons entry entries induction =>
      obtain ⟨parsed, _ | found⟩ := entry
      · obtain ⟨place, rest, rfl, rest_placed⟩ := placeNodes_new placed
        rcases List.mem_cons.mp node_mem with rfl | rest_mem
        · exact Or.inr (FreshId.fresh_not_mem _ _)
        · rcases induction rest_placed rest_mem with old | new
          · exact Or.inl (by simpa using old)
          · exact Or.inr fun old => new (List.mem_cons_of_mem _ old)
      · obtain ⟨rest, rfl, rest_placed⟩ := placeNodes_inherited placed
        rcases List.mem_cons.mp node_mem with rfl | rest_mem
        · exact Or.inl (by simp [inheritNode])
        · rcases induction rest_placed rest_mem with old | new
          · refine Or.inl ?_
            rw [List.map_cons, List.reduceOption_cons_of_some]
            exact List.mem_cons_of_mem _ old
          · exact Or.inr new

/-- Placed nodes have distinct ids when the inherited ones are distinct and count as used. -/
theorem nodup_placeNodes
    (placed : placeNodes clusters canvasWidth draft entries = .ok (nodes, after))
    (distinct : ((entries.map (·.2)).reduceOption.map (·.id)).Nodup)
    (counted : (entries.map (·.2)).reduceOption.map (·.id) ⊆ draft.used) :
    (nodes.map (·.id)).Nodup := by
  induction entries generalizing draft nodes with
  | nil =>
      cases placed
      exact List.nodup_nil
  | cons entry entries induction =>
      obtain ⟨parsed, _ | found⟩ := entry
      · obtain ⟨place, rest, rfl, rest_placed⟩ := placeNodes_new placed
        rw [List.map_cons, List.reduceOption_cons_of_none] at distinct counted
        have new := FreshId.fresh_not_mem parsed.id draft.used
        rw [List.map_cons, List.nodup_cons]
        constructor
        · intro again
          obtain ⟨other, other_mem, same⟩ := List.mem_map.mp again
          have same : other.id = FreshId.fresh parsed.id draft.used := same
          rcases id_of_mem_placeNodes rest_placed other_mem with old | apart
          · exact new (same ▸ counted old)
          · exact apart (same ▸ List.mem_cons_self)
        · exact induction rest_placed distinct fun id id_mem =>
            List.mem_cons_of_mem _ (counted id_mem)
      · obtain ⟨rest, rfl, rest_placed⟩ := placeNodes_inherited placed
        rw [List.map_cons, List.reduceOption_cons_of_some, List.map_cons] at distinct counted
        rw [List.nodup_cons] at distinct
        rw [List.map_cons, List.nodup_cons]
        constructor
        · intro again
          obtain ⟨other, other_mem, same⟩ := List.mem_map.mp again
          have same : other.id = found.id := same
          rcases id_of_mem_placeNodes rest_placed other_mem with old | apart
          · exact distinct.1 (same ▸ old)
          · exact apart (same ▸ counted List.mem_cons_self)
        · exact induction rest_placed distinct.2 fun id id_mem =>
            counted (List.mem_cons_of_mem _ id_mem)

/-- A placed node lies where a reference of a new node leads. -/
theorem cluster_of_mem_placeNodes
    (placed : placeNodes clusters canvasWidth draft entries = .ok (nodes, after))
    {node : Node α} (node_mem : node ∈ nodes) :
    ∃ reference, node.cluster = clusters.final? reference := by
  induction entries generalizing draft nodes with
  | nil =>
      cases placed
      cases node_mem
  | cons entry entries induction =>
      obtain ⟨parsed, _ | found⟩ := entry
      · obtain ⟨place, rest, rfl, rest_placed⟩ := placeNodes_new placed
        rcases List.mem_cons.mp node_mem with rfl | rest_mem
        · exact ⟨parsed.cluster, rfl⟩
        · exact induction rest_placed rest_mem
      · obtain ⟨rest, rfl, rest_placed⟩ := placeNodes_inherited placed
        rcases List.mem_cons.mp node_mem with rfl | rest_mem
        · exact ⟨parsed.cluster, rfl⟩
        · exact induction rest_placed rest_mem

/-- A node that is taken over keeps its id. -/
theorem mem_ids_of_inherited
    (placed : placeNodes clusters canvasWidth draft entries = .ok (nodes, after))
    {parsed found : Node α} (entry_mem : (parsed, some found) ∈ entries) :
    found.id ∈ nodes.map (·.id) := by
  induction entries generalizing draft nodes with
  | nil => cases entry_mem
  | cons entry entries induction =>
      obtain ⟨first, _ | other⟩ := entry
      · obtain ⟨place, rest, rfl, rest_placed⟩ := placeNodes_new placed
        have rest_mem : (parsed, some found) ∈ entries := by simpa using entry_mem
        exact List.mem_cons_of_mem _ (induction rest_placed rest_mem)
      · obtain ⟨rest, rfl, rest_placed⟩ := placeNodes_inherited placed
        rcases List.mem_cons.mp entry_mem with same | rest_mem
        · cases same
          exact List.mem_cons_self
        · exact List.mem_cons_of_mem _ (induction rest_placed rest_mem)

/-- The table of node ids gains ids of placed nodes only. -/
theorem mem_ids_of_placeNodes
    (placed : placeNodes clusters canvasWidth draft entries = .ok (nodes, after))
    {pair : String × String} (pair_mem : pair ∈ after.ids) :
    pair ∈ draft.ids ∨ pair.2 ∈ nodes.map (·.id) := by
  induction entries generalizing draft nodes with
  | nil =>
      cases placed
      exact Or.inl pair_mem
  | cons entry entries induction =>
      obtain ⟨parsed, _ | found⟩ := entry
      · obtain ⟨place, rest, rfl, rest_placed⟩ := placeNodes_new placed
        rcases induction rest_placed with old | new
        · rcases List.mem_cons.mp old with rfl | older
          · exact Or.inr List.mem_cons_self
          · exact Or.inl older
        · exact Or.inr (List.mem_cons_of_mem _ new)
      · obtain ⟨rest, rfl, rest_placed⟩ := placeNodes_inherited placed
        rcases induction rest_placed with old | new
        · exact Or.inl old
        · exact Or.inr (List.mem_cons_of_mem _ new)

end Placing

/-! ## Edges -/

/-- A merged edge has a new id and ends at final ids. -/
theorem mem_mergeEdges {ids : List (String × String)} {used : List String} {edges : List Edge}
    {edge : Edge} (edge_mem : edge ∈ mergeEdges ids used edges) :
    edge.id ∉ used ∧ (∃ source, ids.lookup source = some edge.source) ∧
      ∃ target, ids.lookup target = some edge.target := by
  induction edges generalizing used with
  | nil => cases edge_mem
  | cons first edges induction =>
      simp only [mergeEdges] at edge_mem
      split at edge_mem
      · rename_i source target source_eq target_eq
        rcases List.mem_cons.mp edge_mem with rfl | rest_mem
        · exact ⟨FreshId.fresh_not_mem _ _, ⟨_, source_eq⟩, ⟨_, target_eq⟩⟩
        · obtain ⟨new, ends⟩ := induction rest_mem
          exact ⟨fun old => new (List.mem_cons_of_mem _ old), ends⟩
      · exact induction edge_mem

theorem nodup_mergeEdges (ids : List (String × String)) (used : List String) (edges : List Edge) :
    ((mergeEdges ids used edges).map (·.id)).Nodup := by
  induction edges generalizing used with
  | nil => exact List.nodup_nil
  | cons first edges induction =>
      simp only [mergeEdges]
      split
      · rw [List.map_cons, List.nodup_cons]
        refine ⟨?_, induction _⟩
        intro again
        obtain ⟨other, other_mem, same⟩ := List.mem_map.mp again
        exact (mem_mergeEdges other_mem).1 (same ▸ List.mem_cons_self)
      · exact induction used

/-! ## All of it -/

/-- The new nodes, each with the existing one that it takes over. -/
def nodeEntries (parsed : Graph α) (nodes : List (Node α)) : List (Node α × Option (Node α)) :=
  parsed.nodes.zip (claim Node.key Node.id nodes [] parsed.nodes)

/-- The draft in which every inherited id counts as used. -/
def inheritedDraft (clusters : Clusters α) (entries : List (Node α × Option (Node α))) :
    NodeDraft α where
  placed := (inheritNodes clusters entries).map (·.2)
  used := (inheritNodes clusters entries).map (·.2.id)
  ids := ((inheritNodes clusters entries).map fun entry => (entry.1.id, entry.2.id)).reverse

/-- A merged diagram is put together from merged clusters, placed nodes and merged edges. -/
theorem merge_of_placeNodes [Scalar α] {parsed : Graph α} {nodes : List (Node α)}
    {clusters : List (Cluster α)} {canvasWidth : α} {mergedNodes : List (Node α)}
    {after : NodeDraft α}
    (placed : placeNodes (mergeClusters parsed.clusters clusters) canvasWidth
      (inheritedDraft (mergeClusters parsed.clusters clusters) (nodeEntries parsed nodes))
      (nodeEntries parsed nodes) = .ok (mergedNodes, after)) :
    merge parsed nodes clusters canvasWidth = .ok
      { clusters := (mergeClusters parsed.clusters clusters).clusters
        nodes := mergedNodes
        edges := mergeEdges after.ids [] parsed.edges } := by
  simp only [nodeEntries, inheritedDraft] at placed
  simp only [merge, bind, Except.bind, pure, Except.pure, placed]

theorem map_fst_nodeEntries (parsed : Graph α) (nodes : List (Node α)) :
    (nodeEntries parsed nodes).map (·.1) = parsed.nodes := by
  apply List.map_fst_zip
  rw [length_claim]

theorem map_id_nodeEntries (parsed : Graph α) (nodes : List (Node α)) :
    (nodeEntries parsed nodes).map (·.1.id) = parsed.nodes.map (·.id) := by
  conv_rhs => rw [← map_fst_nodeEntries parsed nodes, List.map_map]
  rfl

theorem map_snd_nodeEntries (parsed : Graph α) (nodes : List (Node α)) :
    (nodeEntries parsed nodes).map (·.2) = claim Node.key Node.id nodes [] parsed.nodes := by
  apply List.map_snd_zip
  rw [length_claim]

/-- The ids that count as used are those of the nodes that are taken over. -/
theorem used_inheritedDraft (clusters : Clusters α) (entries : List (Node α × Option (Node α))) :
    (inheritedDraft clusters entries).used = (entries.map (·.2)).reduceOption.map (·.id) := by
  induction entries with
  | nil => rfl
  | cons entry entries induction =>
      obtain ⟨parsed, _ | found⟩ := entry
      · simpa [inheritedDraft, inheritNodes] using induction
      · simpa [inheritedDraft, inheritNodes, inheritNode] using induction

/-- What is merged is well-formed. -/
theorem wellFormed_of_placeNodes [Scalar α] {parsed : Graph α} {nodes : List (Node α)}
    {clusters : List (Cluster α)} {canvasWidth : α} {mergedNodes : List (Node α)}
    {after : NodeDraft α}
    (placed : placeNodes (mergeClusters parsed.clusters clusters) canvasWidth
      (inheritedDraft (mergeClusters parsed.clusters clusters) (nodeEntries parsed nodes))
      (nodeEntries parsed nodes) = .ok (mergedNodes, after)) :
    Graph.WellFormed
      { clusters := (mergeClusters parsed.clusters clusters).clusters
        nodes := mergedNodes
        edges := mergeEdges after.ids [] parsed.edges } := by
  have known (key id : String) (found : after.ids.lookup key = some id) :
      id ∈ mergedNodes.map (·.id) := by
    rcases mem_ids_of_placeNodes placed (Assoc.mem_of_lookup found) with old | new
    · obtain ⟨entry, entry_mem, same⟩ := List.mem_map.mp (List.mem_reverse.mp old)
      obtain ⟨⟨own, claimed⟩, claim_mem, inherits⟩ := List.mem_filterMap.mp entry_mem
      obtain ⟨other, rfl, rfl⟩ := Option.map_eq_some_iff.mp inherits
      cases same
      have other_mem : other.id ∈ mergedNodes.map (·.id) :=
        mem_ids_of_inherited placed claim_mem
      exact other_mem
    · exact new
  exact {
    clusterIds := nodup_ids_mergeClusters parsed.clusters clusters
    nodeIds := by
      apply nodup_placeNodes placed
      · rw [map_snd_nodeEntries]
        exact nodup_claim [] parsed.nodes
      · rw [used_inheritedDraft]
        exact List.Subset.refl _
    parents := fun _ cluster_mem _ parent_eq =>
      parent_mergeClusters parsed.clusters clusters cluster_mem parent_eq
    ends := fun cluster _ => ends_mergeClusters parsed.clusters clusters cluster.id
    memberships := by
      intro node node_mem cluster cluster_eq
      obtain ⟨reference, final⟩ := cluster_of_mem_placeNodes placed node_mem
      rw [map_id_mergeClusters]
      exact mem_finalIds_of_final (final.symm.trans cluster_eq)
    endpoints := by
      intro edge edge_mem
      obtain ⟨-, ⟨source, source_eq⟩, target, target_eq⟩ := mem_mergeEdges edge_mem
      exact ⟨known source _ source_eq, known target _ target_eq⟩
    edgeIds := nodup_mergeEdges after.ids [] parsed.edges }

/-- Whatever is merged came about by placing the nodes. -/
theorem placeNodes_of_merge [Scalar α] {parsed merged : Graph α} {nodes : List (Node α)}
    {clusters : List (Cluster α)} {canvasWidth : α}
    (done : merge parsed nodes clusters canvasWidth = .ok merged) :
    ∃ mergedNodes after,
      placeNodes (mergeClusters parsed.clusters clusters) canvasWidth
        (inheritedDraft (mergeClusters parsed.clusters clusters) (nodeEntries parsed nodes))
        (nodeEntries parsed nodes) = .ok (mergedNodes, after) ∧
      merged =
        { clusters := (mergeClusters parsed.clusters clusters).clusters
          nodes := mergedNodes
          edges := mergeEdges after.ids [] parsed.edges } := by
  cases placed : placeNodes (mergeClusters parsed.clusters clusters) canvasWidth
      (inheritedDraft (mergeClusters parsed.clusters clusters) (nodeEntries parsed nodes))
      (nodeEntries parsed nodes) with
  | error error =>
      simp only [nodeEntries, inheritedDraft] at placed
      simp only [merge, bind, Except.bind, placed] at done
      cases done
  | ok out =>
      rw [merge_of_placeNodes placed] at done
      cases done
      exact ⟨out.1, out.2, rfl, rfl⟩

/-- Whenever merging gives a diagram, it is well-formed. -/
theorem wellFormed_of_merge [Scalar α] {parsed merged : Graph α} {nodes : List (Node α)}
    {clusters : List (Cluster α)} {canvasWidth : α}
    (done : merge parsed nodes clusters canvasWidth = .ok merged) : merged.WellFormed := by
  obtain ⟨mergedNodes, after, placed, rfl⟩ := placeNodes_of_merge done
  exact wellFormed_of_placeNodes placed

/-- On a canvas of finite width everything can be merged with everything. -/
theorem exists_merge_ok [Scalar α] {canvasWidth : α} (parsed : Graph α) (nodes : List (Node α))
    (clusters : List (Cluster α)) (finite : Placement.FiniteWidth canvasWidth) :
    ∃ merged, merge parsed nodes clusters canvasWidth = .ok merged := by
  let mergedClusters := mergeClusters parsed.clusters clusters
  let entries := nodeEntries parsed nodes
  obtain ⟨⟨mergedNodes, after⟩, placed⟩ :=
    placeNodes_ok finite mergedClusters (inheritedDraft mergedClusters entries) entries
  exact ⟨_, merge_of_placeNodes placed⟩

/-- Whatever is merged with whatever, the result is well-formed, and on a canvas of finite width
there is one. -/
theorem merge_wellFormed [Scalar α] (parsed : Graph α) (nodes : List (Node α))
    (clusters : List (Cluster α)) (canvasWidth : α) :
    (∀ merged, merge parsed nodes clusters canvasWidth = .ok merged → merged.WellFormed) ∧
      (Placement.FiniteWidth canvasWidth →
        ∃ merged, merge parsed nodes clusters canvasWidth = .ok merged) :=
  ⟨fun _ done => wellFormed_of_merge done, exists_merge_ok parsed nodes clusters⟩

/-- A diagram with repeated and empty ids, a parent cycle, a cluster that is its own parent, unknown
references and a dangling edge. -/
private def tangle : Graph Float :=
  { clusters := [⟨"a", "Front", some "b", none, none⟩, ⟨"b", "Back", some "a", none, none⟩,
      ⟨"a", "front", some "a", none, none⟩, ⟨"", "Edge", some "lost", none, none⟩]
    nodes := [⟨"n", "API", none, 0, 0, some "a"⟩, ⟨"n", "api", none, 0, 0, some "lost"⟩,
      ⟨"", "Queue", some "Q", 0, 0, some ""⟩]
    edges := [⟨"e", "n", "n", none, .solid⟩, ⟨"e", "", "lost", none, .dashed⟩] }

theorem merge_wellFormed_tangle :
    ∃ merged, merge tangle tangle.nodes tangle.clusters 2000 = .ok merged ∧
      merged.WellFormed := by
  have finite : Placement.FiniteWidth (2000 : Float) :=
    (Placement.finiteWidth_double_iff 2000).mpr ⟨_, _, _, rfl⟩
  obtain ⟨wellFormed, given⟩ := merge_wellFormed tangle tangle.nodes tangle.clusters 2000
  obtain ⟨merged, done⟩ := given finite
  exact ⟨merged, done, wellFormed merged done⟩

end Merge
end ClusterDiagram
