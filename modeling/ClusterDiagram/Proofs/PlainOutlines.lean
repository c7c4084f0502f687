import ClusterDiagram.Proofs.HitTesting

/-!
# Clusters side by side

Where no clusters are nested every outline is given by the members of its cluster alone, and a point
in the cell of a cluster is in no other outline.
-/

namespace ClusterDiagram
namespace Outline

open HeldNumbers Layout

variable {α : Type} [Scalar α] {clusters : List (Cluster α)} {nodes : List (Node α)}

/-! ## Drawing side by side -/

/-- An anchored cluster is outlined without a look at anything but its members and children. -/
theorem enclose_anchored {cluster : Cluster α} {x y : α} (x_eq : cluster.x = some x)
    (y_eq : cluster.y = some y) (nodes others : List (Node α)) (canvasWidth canvasWidth' : α)
    (members : List (Node α)) (children : List (Rect α)) :
    enclose nodes clusters canvasWidth (some cluster) members children =
      enclose others clusters canvasWidth' (some cluster) members children := by
  simp only [enclose, Option.bind_some, x_eq, y_eq]

section Flat

variable (ids : (clusters.map (·.id)).Nodup) (flat : ∀ id, childIds clusters id = [])
  {canvasWidth : α} {rects : Cluster α → Rect α}
  (enclosed : ∀ cluster ∈ clusters, enclose nodes clusters canvasWidth (some cluster)
    (membersOf nodes cluster.id) [] = .ok (rects cluster))

include ids flat enclosed

theorem visit_of_flat {cluster : Cluster α} (cluster_mem : cluster ∈ clusters)
    {outlines : List (String × Rect α)} (new : cluster.id ∉ outlines.map (·.1)) (fuel : ℕ) :
    visit nodes clusters canvasWidth (fuel + 1) [] outlines cluster.id =
      .ok (outlines ++ [(cluster.id, rects cluster)]) := by
  have done := enclosed cluster cluster_mem
  rw [membersOf, ← Cluster.lastWith?_eq_some ids cluster_mem] at done
  simp only [visit, Assoc.lookup_eq_none_of_not_mem new, flat, List.foldlM_nil, List.filterMap_nil]
  change (enclose _ _ _ _ _ _ >>= _) = _
  rw [done]
  rfl

/-- Clusters side by side are outlined one after the other. -/
theorem ofClusters_of_flat : ofClusters clusters nodes canvasWidth =
    .ok (clusters.map fun cluster => (cluster.id, rects cluster)) := by
  let entry (cluster : Cluster α) : String × Rect α := (cluster.id, rects cluster)
  -- the clusters in front are outlined, those at the back are still to be visited
  have rest (back : List (Cluster α)) : ∀ front, clusters = front ++ back →
      (back.map (·.id)).foldlM (visit nodes clusters canvasWidth (clusters.length + 1) [])
        (front.map entry) = .ok (clusters.map entry) := by
    induction back with
    | nil =>
        intro front split
        rw [List.append_nil] at split
        rw [← split]
        rfl
    | cons cluster back induction =>
        intro front split
        have new : cluster.id ∉ (front.map entry).map (·.1) := by
          rw [List.map_map]
          have apart := (List.nodup_append.mp (by simpa [split] using ids)).2.2
          intro front_mem
          exact apart _ front_mem _ List.mem_cons_self rfl
        have cluster_mem : cluster ∈ clusters := by simp [split]
        rw [List.map_cons, List.foldlM_cons, visit_of_flat ids flat enclosed cluster_mem new]
        have next := induction (front ++ [cluster]) (by simp [split])
        rw [List.map_append] at next
        exact next
  exact rest clusters [] rfl

end Flat

/-! ## Hits side by side -/

variable [HeldNumbers α] {bound : ℕ} {cells : Cells}

/-- The region that a cluster takes in its cell. -/
noncomputable def regionAt (cells : Cells) (nodes : List (Node α)) (id : String) : Region :=
  plainRegion (membersOf nodes id) (emptyRegion (cells.left id) (cells.top id))

section Settled

variable (settled : Settled bound cells.home clusters nodes)
  (corners : ∀ cluster ∈ clusters, ∃ x y, cluster.x = some x ∧ cluster.y = some y ∧
    Holds x (cells.left cluster.id : ℚ) ∧ Holds y (cells.top cluster.id : ℚ))

include settled corners

theorem emptyRegion_within_home {cluster : Cluster α} (cluster_mem : cluster ∈ clusters) :
    (emptyRegion (cells.left cluster.id) (cells.top cluster.id)).Within
      (cells.home cluster.id) := by
  obtain ⟨x, y, left, top, x_eq, y_eq, x_held, y_held, at_home⟩ :=
    settled.anchored cluster cluster_mem
  obtain ⟨x', y', x_eq', y_eq', x_held', y_held'⟩ := corners cluster cluster_mem
  cases x_eq.symm.trans x_eq'
  cases y_eq.symm.trans y_eq'
  obtain rfl := Nat.cast_injective (eq_of_holds x_held x_held')
  obtain rfl := Nat.cast_injective (eq_of_holds y_held y_held')
  exact at_home

theorem regionAt_within_home {id : String} (id_mem : id ∈ clusters.map (·.id)) :
    (regionAt cells nodes id).Within (cells.home id) := by
  obtain ⟨cluster, cluster_mem, rfl⟩ := List.mem_map.mp id_mem
  refine plainRegion_within (fun node node_mem => ?_)
    (emptyRegion_within_home settled corners cluster_mem)
  obtain ⟨all_mem, own⟩ := List.mem_filter.mp node_mem
  exact (settled.members node all_mem _ id_mem (beq_iff_eq.mp own)).2

variable (large : 180 ≤ bound) (fits : Fits α (bound + 2 * (padding * (clusters.length + 1) : ℕ)))

include large fits

/-- A cluster without child clusters is outlined by the region that it takes. -/
theorem exists_enclose_plain (cluster : Cluster α) (cluster_mem : cluster ∈ clusters) :
    ∃ rect, Spans rect (regionAt cells nodes cluster.id) ∧
      (regionAt cells nodes cluster.id).Held α ∧
      ∀ others canvasWidth, enclose others clusters canvasWidth (some cluster)
        (membersOf nodes cluster.id) [] = .ok rect := by
  obtain ⟨x, y, x_eq, y_eq, x_held, y_held⟩ := corners cluster cluster_mem
  have id_mem : cluster.id ∈ clusters.map (·.id) := List.mem_map_of_mem cluster_mem
  have home_within := settled.homes _ id_mem
  have member {node : Node α} (node_mem : node ∈ membersOf nodes cluster.id) :
      NodeHeld node ∧ (squareOf node memberExtent).Within (field bound 0) := by
    obtain ⟨all_mem, own⟩ := List.mem_filter.mp node_mem
    obtain ⟨held, at_home⟩ := settled.members node all_mem _ id_mem (beq_iff_eq.mp own)
    exact ⟨held, ((Region.within_grow _ padding).trans at_home).trans home_within⟩
  have fits_padded : Fits α (bound + 2 * (0 + padding : ℕ)) := by
    apply fits.mono
    have one_le : 0 + padding ≤ padding * (clusters.length + 1) := by
      rw [Nat.zero_add]
      exact Nat.le_mul_of_pos_right _ (Nat.succ_pos _)
    have one_cast := (Nat.cast_le (α := ℚ)).mpr one_le
    linarith
  obtain ⟨rect, region, done, spans, encloses⟩ := enclose_spec (fun _ mem => (member mem).1)
    (fun _ mem => (member mem).2) (fun _ child_mem => absurd child_mem List.not_mem_nil) fits_padded
    large nodes clusters x x_eq y_eq x_held y_held
    ((emptyRegion_within_home settled corners cluster_mem).trans home_within)
  have region_eq : region = regionAt cells nodes cluster.id := encloses.plain rfl
  refine ⟨rect, region_eq ▸ spans,
    region_eq ▸ held_of_within fits_padded encloses.regular encloses.within, ?_⟩
  intro others canvasWidth
  rw [← done]
  exact enclose_anchored x_eq y_eq others nodes canvasWidth x _ []

variable (flat : ∀ id, childIds clusters id = [])

include flat

/-- Clusters side by side have outlines that hold what lies in their regions. They depend on the
nodes by the members of the clusters alone. -/
theorem exists_outlines_of_flat : ∃ outlines,
    (∀ others canvasWidth, (∀ id ∈ clusters.map (·.id), membersOf others id = membersOf nodes id) →
      ofClusters clusters others canvasWidth = .ok outlines) ∧
    ∀ id ∈ clusters.map (·.id), ∀ point x y, Holds point.x x → Holds point.y y →
      (covers outlines point id = true ↔ (regionAt cells nodes id).Contains x y) := by
  have : Nonempty (Rect α) := ⟨emptyRect ((0 : ℕ) : α) ((0 : ℕ) : α)⟩
  choose! rects spans held enclosed using exists_enclose_plain settled corners large fits
  refine ⟨clusters.map fun cluster => (cluster.id, rects cluster), ?_, ?_⟩
  · intro others canvasWidth same
    apply ofClusters_of_flat settled.ids flat
    intro cluster cluster_mem
    rw [same _ (List.mem_map_of_mem cluster_mem)]
    exact enclosed cluster cluster_mem others canvasWidth
  · intro id id_mem point x y x_held y_held
    obtain ⟨cluster, cluster_mem, rfl⟩ := List.mem_map.mp id_mem
    let entry (cluster : Cluster α) : String × Rect α := (cluster.id, rects cluster)
    have keys : ((clusters.map entry).map (·.1)).Nodup := by
      rw [List.map_map]
      exact settled.ids
    have found := Assoc.lookup_of_mem keys (List.mem_map_of_mem (f := entry) cluster_mem)
    rw [covers, found, Option.any_some]
    exact holds_iff (spans cluster cluster_mem) (held cluster cluster_mem) x_held y_held

/-- A point in the cell of a cluster hits that cluster or none. -/
theorem exists_hit_of_flat (separate : cells.Separate (clusters.map (·.id)) bound) :
    ∃ outlines,
      (∀ others canvasWidth,
        (∀ id ∈ clusters.map (·.id), membersOf others id = membersOf nodes id) →
          ofClusters clusters others canvasWidth = .ok outlines) ∧
      ∀ id ∈ clusters.map (·.id), ∀ point x y, Holds point.x x → Holds point.y y →
        (cells.home id).Contains x y →
          (clusterAt? point clusters outlines = some id ↔
            (regionAt cells nodes id).Contains x y) ∧
          (clusterAt? point clusters outlines = some id ∨
            clusterAt? point clusters outlines = none) := by
  obtain ⟨outlines, drawn, holds_point⟩ := exists_outlines_of_flat settled corners large fits flat
  refine ⟨outlines, drawn, fun id id_mem point x y x_held y_held at_home => ?_⟩
  have alone {other : String} (other_mem : other ∈ clusters.map (·.id))
      (covered : covers outlines point other = true) : other = id := by
    have inside := (holds_point other other_mem point x y x_held y_held).mp covered
    exact home_unique separate other_mem id_mem
      (inside.mono (regionAt_within_home settled corners other_mem)) at_home
  constructor
  · rw [clusterAt?_eq_some_iff settled.ids, ← holds_point id id_mem point x y x_held y_held]
    refine ⟨fun hit => hit.1.2, fun covered => ⟨⟨id_mem, covered⟩, ?_⟩⟩
    intro other other_mem other_covered
    rw [alone other_mem other_covered]
    exact not_precedes_self clusters id
  · cases hit : clusterAt? point clusters outlines with
    | none => exact Or.inr rfl
    | some other =>
        obtain ⟨⟨other_mem, covered⟩, -⟩ := (clusterAt?_eq_some_iff settled.ids).mp hit
        exact Or.inl (congrArg some (alone other_mem covered))

end Settled

end Outline
end ClusterDiagram
