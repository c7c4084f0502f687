import ClusterDiagram.Proofs.KeptEntities
import Mathlib.Data.List.Zip

/-!
# Merging a diagram with itself

An entity that is merged with its own list claims itself, or nothing when an earlier one has its key.
Either way it keeps its id, so that a diagram that comes back as it was is merged as it was, only
that nodes without a claim may be moved.
-/

namespace ClusterDiagram
namespace Merge

variable {α : Type}

/-! ## Claims -/

section Claims

variable {β : Type} {key id : β → String} {front rest entities : List β} {claimed : List String}

/-- Whether the first of every key of a list is claimed. -/
def Passed (key id : β → String) (front : List β) (claimed : List String) : Prop :=
  ∀ shared found, front.find? (fun other => key other == shared) = some found →
    id found ∈ claimed

theorem Passed.snoc (passed : Passed key id front claimed) {claimed' : List String}
    (grown : claimed ⊆ claimed') {own : β}
    (counted : front.find? (fun other => key other == key own) = none → id own ∈ claimed') :
    Passed key id (front ++ [own]) claimed' := by
  intro shared found search
  rw [List.find?_append] at search
  cases before : front.find? fun other => key other == shared with
  | some earlier =>
      rw [before, Option.some_or] at search
      cases search
      exact grown (passed shared found before)
  | none =>
      rw [before, Option.none_or, List.find?_singleton] at search
      split at search
      · rename_i here
        cases search
        exact counted (beq_iff_eq.mp here ▸ before)
      · cases search

/-- An entity of a list claims none but the one at its own place; `front` is what has been passed. -/
theorem id_of_mem_claim
    (same : entities.map (fun entity => (key entity, id entity)) =
      rest.map fun entity => (key entity, id entity))
    (passed : Passed key id front claimed) {entity found : β}
    (pair_mem : (entity, some found) ∈
      entities.zip (claim key id (front ++ rest) claimed entities)) :
    id found = id entity := by
  induction entities generalizing front rest claimed with
  | nil => cases pair_mem
  | cons first entities induction =>
      cases rest with
      | nil => cases same
      | cons own rest =>
          rw [List.map_cons, List.map_cons, List.cons.injEq, Prod.mk.injEq] at same
          obtain ⟨⟨key_eq, id_eq⟩, same⟩ := same
          have split_eq : front ++ own :: rest = (front ++ [own]) ++ rest := by simp
          cases before : front.find? fun other => key other == key own with
          | some earlier =>
              -- The first of the key lies behind and is taken, so nothing is claimed here.
              have taken := passed (key own) earlier before
              simp only [claim, key_eq, List.find?_append, before, Option.some_or,
                List.contains_eq_mem, taken, decide_true, if_true, List.zip_cons_cons,
                List.mem_cons, Prod.mk.injEq, reduceCtorEq, and_false, false_or] at pair_mem
              rw [split_eq] at pair_mem
              refine induction same (passed.snoc (List.Subset.refl _) ?_) pair_mem
              intro none_eq
              cases before.symm.trans none_eq
          | none =>
              have own_first : (front ++ own :: rest).find? (fun other => key other == key own) =
                  some own := by
                rw [List.find?_append, before, Option.none_or, List.find?_cons, beq_self_eq_true]
              simp only [claim, key_eq, own_first, List.contains_eq_mem,
                decide_eq_true_eq] at pair_mem
              rw [split_eq] at pair_mem
              split at pair_mem
              · rename_i taken
                simp only [List.zip_cons_cons, List.mem_cons, Prod.mk.injEq, reduceCtorEq,
                  and_false, false_or] at pair_mem
                exact induction same (passed.snoc (List.Subset.refl _) fun _ => taken) pair_mem
              · rcases List.mem_cons.mp pair_mem with here | later
                · cases here
                  exact id_eq.symm
                · exact induction same (passed.snoc (List.subset_cons_self _ _)
                    fun _ => List.mem_cons_self) later

end Claims

/-! ## Clusters -/

/-- Clusters that claim none but themselves keep their ids. -/
theorem completeIds_of_own {used : List String} {entries : List (Option String × Cluster α)}
    (ids : (entries.map (·.2.id)).Nodup)
    (own : ∀ entry ∈ entries, ∀ id, entry.1 = some id → id = entry.2.id)
    (unused : ∀ entry ∈ entries, entry.1 = none → entry.2.id ∉ used) :
    completeIds used entries = entries.map (·.2.id) := by
  induction entries generalizing used with
  | nil => rfl
  | cons entry entries induction =>
      rw [List.map_cons, List.nodup_cons] at ids
      rw [List.forall_mem_cons] at own unused
      obtain ⟨_ | inherited, cluster⟩ := entry
      · rw [completeIds, FreshId.fresh_of_not_mem (unused.1 rfl)]
        have rest_unused : ∀ other ∈ entries, other.1 = none →
            other.2.id ∉ cluster.id :: used := by
          intro other other_mem none_eq again
          rcases List.mem_cons.mp again with same | old
          · exact ids.1 (same ▸ List.mem_map_of_mem other_mem)
          · exact unused.2 other other_mem none_eq old
        rw [List.map_cons, induction ids.2 own.2 rest_unused]
      · rw [completeIds, own.1 inherited rfl, List.map_cons, induction ids.2 own.2 unused.2]

theorem mem_used_inheritIds {used : List String} {claims : List (Option (Cluster α))} {id : String}
    (id_mem : id ∈ (inheritIds used claims).2) :
    id ∈ used ∨ some id ∈ (inheritIds used claims).1 := by
  induction claims generalizing used with
  | nil => exact Or.inl id_mem
  | cons claimed claims induction =>
      cases claimed with
      | none =>
          rcases induction id_mem with old | inherited
          · exact Or.inl old
          · exact Or.inr (List.mem_cons_of_mem _ inherited)
      | some found =>
          rcases induction id_mem with old | inherited
          · rcases List.mem_cons.mp old with rfl | older
            · exact Or.inr List.mem_cons_self
            · exact Or.inl older
          · exact Or.inr (List.mem_cons_of_mem _ inherited)

/-- Clusters that come back as they were keep their ids. -/
theorem finalIds_of_unplaced_eq {parsed existing : List (Cluster α)}
    (same : parsed.map Cluster.unplaced = existing.map Cluster.unplaced)
    (ids : (parsed.map (·.id)).Nodup) : finalIds parsed existing = parsed.map (·.id) := by
  let claims := claim Cluster.key Cluster.id existing [] parsed
  have keys : parsed.map (fun cluster => (cluster.key, cluster.id)) =
      existing.map fun cluster => (cluster.key, cluster.id) := by
    have pairs := congrArg (List.map fun cluster : Cluster Unit => (cluster.key, cluster.id)) same
    simpa only [List.map_map, Function.comp_def, Cluster.unplaced_key, Cluster.unplaced_id]
      using pairs
  have inherited : (inheritIds [] claims).1 = claims.map (Option.map (·.id)) :=
    inheritIds_eq_map (nodup_claim [] parsed) (by simp)
  have length_eq : (inheritIds [] claims).1.length = parsed.length := by
    rw [length_inheritIds, length_claim]
  have seconds : (((inheritIds [] claims).1.zip parsed).map (·.2)) = parsed :=
    List.map_snd_zip length_eq.ge
  have entry_ids : ((inheritIds [] claims).1.zip parsed).map (·.2.id) = parsed.map (·.id) := by
    conv_rhs => rw [← seconds, List.map_map]
    rfl
  have own : ∀ entry ∈ (inheritIds [] claims).1.zip parsed, ∀ id, entry.1 = some id →
      id = entry.2.id := by
    rintro ⟨_, cluster⟩ entry_mem id rfl
    rw [inherited, List.zip_map_left, ← List.zip_swap, List.map_map] at entry_mem
    obtain ⟨⟨other, claimed⟩, pair_mem, entry_eq⟩ := List.mem_map.mp entry_mem
    rw [Function.comp_apply, Prod.swap_prod_mk, Prod.map_apply, Prod.mk.injEq] at entry_eq
    obtain ⟨found, rfl, rfl⟩ := Option.map_eq_some_iff.mp entry_eq.1
    have passed : Passed Cluster.key Cluster.id ([] : List (Cluster α)) [] := by
      intro _ _ search
      cases search
    exact (id_of_mem_claim keys passed pair_mem).trans (congrArg Cluster.id entry_eq.2)
  rw [finalIds, ← entry_ids]
  apply completeIds_of_own
  · rwa [entry_ids]
  · exact own
  · rintro ⟨_, cluster⟩ entry_mem rfl again
    rcases mem_used_inheritIds again with old | given
    · cases old
    · obtain ⟨other, pair_mem⟩ :
          ∃ other, (some cluster.id, other) ∈ (inheritIds [] claims).1.zip parsed := by
        obtain ⟨index, index_lt, given_eq⟩ := List.mem_iff_getElem.mp given
        refine ⟨parsed[index], List.mem_iff_getElem?.mpr ⟨index, ?_⟩⟩
        exact List.getElem?_zip_eq_some.mpr
          ⟨List.getElem?_eq_some_iff.mpr ⟨index_lt, given_eq⟩, List.getElem?_eq_getElem _⟩
      have same_id := own _ pair_mem cluster.id rfl
      have equal := List.inj_on_of_nodup_map (entry_ids ▸ ids) entry_mem pair_mem same_id
      cases congrArg Prod.fst equal

/-! ## Nodes -/

variable [Scalar α] {clusters : Clusters α} {canvasWidth : α} {draft after : NodeDraft α}
  {entries : List (Node α × Option (Node α))} {nodes : List (Node α)}

/-- Nodes that claim none but themselves keep their ids. -/
theorem map_id_placeNodes_of_own
    (placed : placeNodes clusters canvasWidth draft entries = .ok (nodes, after))
    (ids : (entries.map (·.1.id)).Nodup)
    (own : ∀ entry ∈ entries, ∀ found, entry.2 = some found → found.id = entry.1.id)
    (unused : ∀ entry ∈ entries, entry.2 = none → entry.1.id ∉ draft.used) :
    nodes.map (·.id) = entries.map (·.1.id) := by
  induction entries generalizing draft nodes with
  | nil =>
      cases placed
      rfl
  | cons entry entries induction =>
      rw [List.map_cons, List.nodup_cons] at ids
      rw [List.forall_mem_cons] at own unused
      obtain ⟨parsed, _ | found⟩ := entry
      · obtain ⟨place, rest, rfl, rest_placed⟩ := placeNodes_new placed
        have free := unused.1 rfl
        have rest_unused : ∀ other ∈ entries, other.2 = none →
            other.1.id ∉ FreshId.fresh parsed.id draft.used :: draft.used := by
          intro other other_mem none_eq again
          rw [FreshId.fresh_of_not_mem free] at again
          rcases List.mem_cons.mp again with same | old
          · exact ids.1 (same ▸ List.mem_map_of_mem other_mem)
          · exact unused.2 other other_mem none_eq old
        rw [List.map_cons, List.map_cons, induction rest_placed ids.2 own.2 rest_unused,
          FreshId.fresh_of_not_mem free]
      · obtain ⟨rest, rfl, rest_placed⟩ := placeNodes_inherited placed
        rw [List.map_cons, List.map_cons, induction rest_placed ids.2 own.2 unused.2]
        exact congrArg (· :: _) (own.1 found rfl)

/-! ## All of it -/

omit [Scalar α] in
/-- A copy of a valid diagram under the ids of the diagram keeps every reference. -/
theorem copiedBy_identity_of_ids {graph copy : Graph α} {rename : Renaming} (valid : graph.Valid)
    (copied : graph.CopiedBy rename copy)
    (clusterIds : copy.clusters.map (·.id) = graph.clusters.map (·.id))
    (nodeIds : copy.nodes.map (·.id) = graph.nodes.map (·.id)) :
    graph.CopiedBy Renaming.identity copy := by
  rw [copied.map_id_clusters, List.map_inj_left] at clusterIds
  rw [copied.map_id_nodes, List.map_inj_left] at nodeIds
  have cluster_eq {reference : Option String}
      (listed : ∀ id, reference = some id → id ∈ graph.clusters.map (·.id)) :
      reference.map rename.cluster = reference := by
    cases reference with
    | none => rfl
    | some id =>
        obtain ⟨cluster, cluster_mem, rfl⟩ := List.mem_map.mp (listed id rfl)
        exact congrArg some (clusterIds cluster cluster_mem)
  have node_eq {id : String} (listed : id ∈ graph.nodes.map (·.id)) : rename.node id = id := by
    obtain ⟨node, node_mem, rfl⟩ := List.mem_map.mp listed
    exact nodeIds node node_mem
  refine ⟨copied.clusters.trans ?_, copied.nodes.trans ?_, copied.edges.trans ?_⟩
  · rw [Renaming.ofCluster_identity]
    apply List.map_congr_left
    intro cluster cluster_mem
    rw [Renaming.ofCluster, clusterIds cluster cluster_mem,
      cluster_eq fun id parent_eq => (valid.parents cluster cluster_mem id parent_eq).1]
    rfl
  · rw [Renaming.ofNode_identity]
    apply List.map_congr_left
    intro node node_mem
    rw [Renaming.ofNode, nodeIds node node_mem,
      cluster_eq fun id member_eq => valid.memberships node node_mem id member_eq]
    rfl
  · rw [Renaming.ofEdge_identity]
    apply List.map_congr_left
    intro edge edge_mem
    obtain ⟨source_mem, target_mem⟩ := valid.endpoints edge edge_mem
    rw [Renaming.ofEdge, node_eq source_mem, node_eq target_mem]
    rfl

/-- Without a node there is nothing to place. -/
theorem exists_merge_ok_of_no_nodes {parsed : Graph α} (empty : parsed.nodes = [])
    (existing : List (Node α)) (existingClusters : List (Cluster α)) :
    ∃ merged, merge parsed existing existingClusters canvasWidth = .ok merged := by
  let mergedClusters := mergeClusters parsed.clusters existingClusters
  have placed : placeNodes mergedClusters canvasWidth
      (inheritedDraft mergedClusters (nodeEntries parsed existing)) (nodeEntries parsed existing) =
      .ok ([], inheritedDraft mergedClusters (nodeEntries parsed existing)) := by
    rw [nodeEntries, empty]
    rfl
  exact ⟨_, merge_of_placeNodes placed⟩

/-- A valid diagram that comes back with the clusters and the nodes of the live one is merged under
their ids. -/
theorem copiedBy_identity_of_merge {live parsed merged : Graph α} (valid : parsed.Valid)
    (named : ∀ cluster ∈ parsed.clusters, cluster.id ≠ "")
    (clusters_eq : parsed.clusters.map Cluster.unplaced = live.clusters.map Cluster.unplaced)
    (nodes_eq : parsed.nodes.map Node.unplaced = live.nodes.map Node.unplaced)
    (done : merge parsed live.nodes live.clusters canvasWidth = .ok merged) :
    parsed.CopiedBy Renaming.identity merged := by
  obtain ⟨rename, copied⟩ := exists_copiedBy_of_merge valid named done
  obtain ⟨mergedNodes, after, placed, rfl⟩ := placeNodes_of_merge done
  have keys : parsed.nodes.map (fun node => (node.key, node.id)) =
      live.nodes.map fun node => (node.key, node.id) := by
    have pairs := congrArg (List.map fun node : Node Unit => (node.key, node.id)) nodes_eq
    simpa only [List.map_map, Function.comp_def, Node.unplaced_key, Node.unplaced_id] using pairs
  have entry_ids := map_id_nodeEntries parsed live.nodes
  have own : ∀ entry ∈ nodeEntries parsed live.nodes, ∀ found, entry.2 = some found →
      found.id = entry.1.id := by
    rintro ⟨node, _⟩ entry_mem found rfl
    have passed : Passed Node.key Node.id ([] : List (Node α)) [] :=
      fun _ _ search => nomatch search
    exact id_of_mem_claim keys passed entry_mem
  have nodeIds : mergedNodes.map (·.id) = parsed.nodes.map (·.id) := by
    rw [← entry_ids]
    apply map_id_placeNodes_of_own placed (entry_ids ▸ valid.nodeIds) own
    intro entry entry_mem none_eq again
    rw [used_inheritedDraft] at again
    obtain ⟨found, found_mem, id_eq⟩ := List.mem_map.mp again
    obtain ⟨other, other_mem, other_eq⟩ :=
      List.mem_map.mp (List.reduceOption_mem_iff.mp found_mem)
    have same_id := (own other other_mem found other_eq).symm.trans id_eq
    have equal := List.inj_on_of_nodup_map (entry_ids ▸ valid.nodeIds) other_mem entry_mem same_id
    rw [equal, none_eq] at other_eq
    cases other_eq
  apply copiedBy_identity_of_ids valid copied
  · rw [map_id_mergeClusters, finalIds_of_unplaced_eq clusters_eq valid.clusterIds]
  · exact nodeIds

end Merge
end ClusterDiagram
