import ClusterDiagram.Proofs.KeptEntities

/-!
# Inheritance

A merge hands the ids and the places of the existing entities on: the first new entity of a key has
those of the first existing one of the key. Every other entity has an id of its own, which no
inherited one equals, so that nothing is inherited twice.
-/

namespace ClusterDiagram
namespace Merge

open FreshId (Variant)

variable {α : Type}

/-- What the merged entities of a kind have from the existing ones, and what they have from the new
ones. -/
structure Inherits {β γ : Type} (key id : β → String) (place : β → γ)
    (existing parsed merged : List β) : Prop where
  /-- There is one merged entity for each new one. -/
  length : merged.length = parsed.length
  /-- An entity that takes over an existing one has its id and its place. -/
  heirs : ∀ index found, TakesOver key existing parsed index found →
    ∃ entity, merged[index]? = some entity ∧ id entity = id found ∧ place entity = place found
  /-- Any other entity has its own id, possibly with a suffix, and no inherited one. -/
  others : ∀ index own, parsed[index]? = some own →
    (∀ found, ¬ TakesOver key existing parsed index found) →
      ∃ entity, merged[index]? = some entity ∧ Variant (id own) (id entity) ∧
        ∀ other found, TakesOver key existing parsed other found → id entity ≠ id found
  /-- No existing entity is inherited twice. -/
  once : ∀ index other found second, TakesOver key existing parsed index found →
    TakesOver key existing parsed other second → id found = id second → index = other

/-! ## Claims -/

section Claims

variable {β : Type} {key id : β → String} {existing parsed : List β}
  (ids : (existing.map id).Nodup)

include ids

/-- An entity that takes over nothing claims nothing. -/
theorem getElem?_claim_of_not_takesOver {index : ℕ} {own : β} (own_at : parsed[index]? = some own)
    (alone : ∀ found, ¬ TakesOver key existing parsed index found) :
    (claim key id existing [] parsed)[index]? = some none := by
  have within : index < (claim key id existing [] parsed).length := by
    rw [length_claim]
    exact (List.getElem?_eq_some_iff.mp own_at).1
  rw [List.getElem?_eq_getElem within]
  cases claimed : (claim key id existing [] parsed)[index] with
  | none => rfl
  | some found =>
      have at_index := (List.getElem?_eq_getElem within).trans (congrArg some claimed)
      exact absurd ((getElem?_claim_iff ids).mp at_index).1 (alone found)

/-- What is taken over is among what is claimed. -/
theorem TakesOver.mem_reduceOption {index : ℕ} {found : β}
    (takes : TakesOver key existing parsed index found) :
    found ∈ (claim key id existing [] parsed).reduceOption :=
  List.reduceOption_mem_iff.mpr
    (List.mem_of_getElem? ((getElem?_claim_iff ids).mpr ⟨takes, List.not_mem_nil⟩))

end Claims

/-! ## Clusters -/

theorem exists_getElem?_completeIds {used : List String}
    {entries : List (Option String × Cluster α)} {index : ℕ} {cluster : Cluster α}
    (alone : entries[index]? = some (none, cluster)) :
    ∃ id, (completeIds used entries)[index]? = some id ∧ Variant cluster.id id ∧ id ∉ used := by
  induction entries generalizing used index with
  | nil => cases alone
  | cons entry entries induction =>
      obtain ⟨inherited, other⟩ := entry
      cases index with
      | zero =>
          cases alone
          exact ⟨_, rfl, FreshId.variant_fresh _ _, FreshId.fresh_not_mem _ _⟩
      | succ index =>
          cases inherited with
          | none =>
              obtain ⟨id, id_at, variant, new⟩ := induction alone
              exact ⟨id, id_at, variant, fun old => new (List.mem_cons_of_mem _ old)⟩
          | some inherited => exact induction alone

section Clusters

variable {parsed existing : List (Cluster α)}

/-- A cluster that claims nothing gets an id that nobody inherits. -/
theorem exists_getElem?_finalIds {index : ℕ} {own : Cluster α} (own_at : parsed[index]? = some own)
    (alone : (claim Cluster.key Cluster.id existing [] parsed)[index]? = some none) :
    ∃ id, (finalIds parsed existing)[index]? = some id ∧ Variant own.id id ∧
      ∀ found ∈ (claim Cluster.key Cluster.id existing [] parsed).reduceOption, id ≠ found.id := by
  have inherited : (inheritIds [] (claim Cluster.key Cluster.id existing [] parsed)).1 =
      (claim Cluster.key Cluster.id existing [] parsed).map (Option.map (·.id)) :=
    inheritIds_eq_map (nodup_claim [] parsed) (by simp)
  have entry_at : (((inheritIds [] (claim Cluster.key Cluster.id existing [] parsed)).1).zip
      parsed)[index]? = some (none, own) := by
    rw [inherited, List.getElem?_zip_eq_some, List.getElem?_map, alone]
    exact ⟨rfl, own_at⟩
  obtain ⟨id, id_at, variant, new⟩ := exists_getElem?_completeIds entry_at
  refine ⟨id, id_at, variant, fun found found_mem same => new ?_⟩
  refine (mem_inheritIds ?_).2
  rw [inherited, same]
  exact List.mem_map.mpr ⟨some found, List.reduceOption_mem_iff.mp found_mem, rfl⟩

/-- A merged cluster has its final id, and the anchor of the cluster that it claims. -/
theorem exists_getElem?_mergeClusters {index : ℕ} {own : Cluster α} {id : String}
    {claimed : Option (Cluster α)} (own_at : parsed[index]? = some own)
    (id_at : (finalIds parsed existing)[index]? = some id)
    (claimed_at : (claim Cluster.key Cluster.id existing [] parsed)[index]? = some claimed) :
    ∃ cluster, (mergeClusters parsed existing).clusters[index]? = some cluster ∧ cluster.id = id ∧
      ∀ found, claimed = some found → cluster.x = found.x ∧ cluster.y = found.y := by
  have ids : ((renamedClusters parsed existing).map (·.id)).Nodup := by
    rw [map_id_renamedClusters]
    exact nodup_finalIds parsed existing
  have entry_at : (parsed.zip ((finalIds parsed existing).zip
      (claim Cluster.key Cluster.id existing [] parsed)))[index]? = some (own, id, claimed) := by
    rw [List.getElem?_zip_eq_some, List.getElem?_zip_eq_some]
    exact ⟨own_at, id_at, claimed_at⟩
  have renamed_at : (renamedClusters parsed existing)[index]? =
      some (mergedCluster (mergeClusters parsed existing).ids own id claimed) := by
    rw [renamedClusters, List.getElem?_map, entry_at]
    rfl
  rw [clusters_mergeClusters, breakCycles_eq_map ids, List.getElem?_map, renamed_at]
  refine ⟨_, rfl, rfl, ?_⟩
  rintro found rfl
  exact ⟨rfl, rfl⟩

/-- Clusters are inherited by their labels. -/
theorem inherits_mergeClusters (ids : (existing.map (·.id)).Nodup) :
    Inherits Cluster.key Cluster.id (fun cluster => (cluster.x, cluster.y)) existing parsed
      (mergeClusters parsed existing).clusters where
  length := by
    have lengths := congrArg List.length (map_id_mergeClusters parsed existing)
    rwa [List.length_map, length_finalIds] at lengths
  heirs := by
    intro index found takes
    have claimed := (getElem?_claim_iff ids).mpr ⟨takes, List.not_mem_nil⟩
    obtain ⟨own, own_at, -⟩ := takes
    obtain ⟨cluster, cluster_at, id_eq, anchor⟩ :=
      exists_getElem?_mergeClusters own_at (getElem?_finalIds claimed) claimed
    obtain ⟨x_eq, y_eq⟩ := anchor found rfl
    exact ⟨cluster, cluster_at, id_eq, Prod.ext x_eq y_eq⟩
  others := by
    intro index own own_at alone
    have unclaimed := getElem?_claim_of_not_takesOver ids own_at alone
    obtain ⟨id, id_at, variant, new⟩ := exists_getElem?_finalIds own_at unclaimed
    obtain ⟨cluster, cluster_at, rfl, -⟩ := exists_getElem?_mergeClusters own_at id_at unclaimed
    exact ⟨cluster, cluster_at, variant, fun other found takes =>
      new found (takes.mem_reduceOption ids)⟩
  once _ _ _ _ takes takes' same := takes.index_eq ids takes' same

end Clusters

/-! ## Nodes -/

variable [Scalar α]

/-- A node that claims nothing gets an id that is not used before. -/
theorem exists_getElem?_placeNodes {clusters : Clusters α} {canvasWidth : α}
    {draft after : NodeDraft α} {entries : List (Node α × Option (Node α))} {nodes : List (Node α)}
    (placed : placeNodes clusters canvasWidth draft entries = .ok (nodes, after)) {index : ℕ}
    {own : Node α} (alone : entries[index]? = some (own, none)) :
    ∃ node, nodes[index]? = some node ∧ Variant own.id node.id ∧ node.id ∉ draft.used := by
  induction entries generalizing draft nodes index with
  | nil => cases alone
  | cons entry entries induction =>
      obtain ⟨first, _ | found⟩ := entry
      · obtain ⟨place, rest, rfl, rest_placed⟩ := placeNodes_new placed
        cases index with
        | zero =>
            cases alone
            exact ⟨_, rfl, FreshId.variant_fresh _ _, FreshId.fresh_not_mem _ _⟩
        | succ index =>
            obtain ⟨node, node_at, variant, new⟩ := induction rest_placed alone
            exact ⟨node, node_at, variant, fun old => new (List.mem_cons_of_mem _ old)⟩
      · obtain ⟨rest, rfl, rest_placed⟩ := placeNodes_inherited placed
        cases index with
        | zero => cases alone
        | succ index => exact induction rest_placed alone

/-- Nodes are inherited by their identity keys. -/
theorem inherits_nodes_of_merge {parsed merged : Graph α} {existing : List (Node α)}
    {clusters : List (Cluster α)} {canvasWidth : α} (ids : (existing.map (·.id)).Nodup)
    (done : merge parsed existing clusters canvasWidth = .ok merged) :
    Inherits Node.key Node.id (fun node => (node.x, node.y)) existing parsed.nodes
      merged.nodes where
  length := (length_of_merge done).2
  heirs := by
    intro index found takes
    obtain ⟨told, -, node_at⟩ := exists_inherited_of_merge done ids takes
    exact ⟨_, node_at, rfl, rfl⟩
  others := by
    intro index own own_at alone
    obtain ⟨mergedNodes, after, placed, rfl⟩ := placeNodes_of_merge done
    have unclaimed := getElem?_claim_of_not_takesOver ids own_at alone
    obtain ⟨node, node_at, variant, new⟩ := exists_getElem?_placeNodes placed
      (List.getElem?_zip_eq_some.mpr ⟨own_at, unclaimed⟩)
    rw [used_inheritedDraft, map_snd_nodeEntries] at new
    refine ⟨node, node_at, variant, fun other found takes same => new ?_⟩
    rw [same]
    exact List.mem_map_of_mem (takes.mem_reduceOption ids)
  once _ _ _ _ takes takes' same := takes.index_eq ids takes' same

/-- Whatever is merged with existing entities of distinct ids: the first new node of a key takes
over the id and the position of the first existing one of the key, and the first new cluster of a
label the id and the anchor of the first existing one; all others have ids of their own that no
inherited one equals. On a canvas of finite width there is a result. -/
theorem merge_inherits (parsed : Graph α) {nodes : List (Node α)} {clusters : List (Cluster α)}
    (nodeIds : (nodes.map (·.id)).Nodup) (clusterIds : (clusters.map (·.id)).Nodup)
    (canvasWidth : α) :
    (∀ merged, merge parsed nodes clusters canvasWidth = .ok merged →
      Inherits Node.key Node.id (fun node => (node.x, node.y)) nodes parsed.nodes merged.nodes ∧
        Inherits Cluster.key Cluster.id (fun cluster => (cluster.x, cluster.y)) clusters
          parsed.clusters merged.clusters) ∧
      (Placement.FiniteWidth canvasWidth →
        ∃ merged, merge parsed nodes clusters canvasWidth = .ok merged) := by
  refine ⟨fun merged done => ⟨inherits_nodes_of_merge nodeIds done, ?_⟩,
    exists_merge_ok parsed nodes clusters⟩
  obtain ⟨mergedNodes, after, -, rfl⟩ := placeNodes_of_merge done
  exact inherits_mergeClusters clusterIds

/-- A diagram that was read anew: its ids are crossed with those of the live one, and a key and a
label are repeated. -/
private def crossed : Graph Float :=
  { clusters := [⟨"front", " FRONT", some "back", none, none⟩, ⟨"back", "front", none, none, none⟩,
      ⟨"b", "Back", none, none, none⟩]
    nodes := [⟨"a", "x ", none, 0, 0, some "front"⟩, ⟨"n1", "X", none, 7, 7, none⟩,
      ⟨"n1", "Z", some "Q", 0, 0, none⟩, ⟨"n2", "New", none, 0, 0, some "b"⟩] }

/-- The live diagram, with a repeated key. -/
private def crossedLive : Graph Float :=
  { clusters := [⟨"front", "Back", none, none, none⟩, ⟨"back", "Front", none, some 80, some 60⟩]
    nodes := [⟨"n1", "X", none, 10, 10, none⟩, ⟨"n2", "x", none, 50, 50, none⟩,
      ⟨"a", "Queue", some "q", 240, 80, none⟩] }

theorem merge_inherits_crossed :
    (crossedLive.nodes.map (·.id)).Nodup ∧ (crossedLive.clusters.map (·.id)).Nodup ∧
      ∃ merged, merge crossed crossedLive.nodes crossedLive.clusters 2000 = .ok merged ∧
        (∃ node, merged.nodes[0]? = some node ∧ node.id = "n1" ∧ (node.x, node.y) = (10, 10)) ∧
        (∃ node, merged.nodes[1]? = some node ∧ Variant "n1" node.id ∧ node.id ≠ "n1") ∧
        (∃ cluster, merged.clusters[0]? = some cluster ∧ cluster.id = "back" ∧
          (cluster.x, cluster.y) = (some 80, some 60)) := by
  have nodeIds : (crossedLive.nodes.map (·.id)).Nodup := by decide
  have clusterIds : (crossedLive.clusters.map (·.id)).Nodup := by decide
  have finite : Placement.FiniteWidth (2000 : Float) :=
    (Placement.finiteWidth_double_iff 2000).mpr ⟨_, _, _, rfl⟩
  obtain ⟨inherits, given⟩ := merge_inherits crossed nodeIds clusterIds 2000
  obtain ⟨merged, done⟩ := given finite
  obtain ⟨nodes, clusters⟩ := inherits merged done
  have first : TakesOver Node.key crossedLive.nodes crossed.nodes 0
      ⟨"n1", "X", none, 10, 10, none⟩ := ⟨_, rfl, by simp, rfl⟩
  have repeated (found : Node Float) :
      ¬ TakesOver Node.key crossedLive.nodes crossed.nodes 1 found := by
    rintro ⟨_, ⟨⟩, apart, -⟩
    exact apart _ List.mem_cons_self (by decide)
  have front : TakesOver Cluster.key crossedLive.clusters crossed.clusters 0
      ⟨"back", "Front", none, some 80, some 60⟩ := ⟨_, rfl, by simp, rfl⟩
  obtain ⟨node, node_at, variant, new⟩ := nodes.others 1 _ rfl repeated
  exact ⟨nodeIds, clusterIds, merged, done, nodes.heirs 0 _ first,
    ⟨node, node_at, variant, new 0 _ first⟩, clusters.heirs 0 _ front⟩

end Merge
end ClusterDiagram
