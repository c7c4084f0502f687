import ClusterDiagram.Proofs.OutlineRegions
import ClusterDiagram.Proofs.OutlineWalk

/-!
# Outlines of all clusters

When every cluster is anchored and every member lies at home, in a region of its cluster, all
clusters are outlined. The outline of a cluster lies around its members; that of a cluster without
child clusters stays at home.
-/

namespace ClusterDiagram
namespace Outline

open HeldNumbers

variable {α : Type} [Scalar α] [HeldNumbers α]

/-- Clusters and nodes whose places are held and lie at home. -/
structure Settled (bound : ℕ) (home : String → Region) (clusters : List (Cluster α))
    (nodes : List (Node α)) : Prop where
  /-- Cluster ids are distinct. -/
  ids : (clusters.map (·.id)).Nodup
  /-- Every cluster is anchored with its empty rectangle at home. -/
  anchored : ∀ cluster ∈ clusters, ∃ x y, ∃ left top : ℕ, cluster.x = some x ∧ cluster.y = some y ∧
    Holds x (left : ℚ) ∧ Holds y (top : ℚ) ∧ (emptyRegion left top).Within (home cluster.id)
  /-- Every member lies at home with its square and the padding. -/
  members : ∀ node ∈ nodes, ∀ id ∈ clusters.map (·.id), node.cluster = some id →
    NodeHeld node ∧ ((squareOf node memberExtent).grow padding).Within (home id)
  /-- Every home lies in the field. -/
  homes : ∀ id ∈ clusters.map (·.id), (home id).Within (field bound 0)

/-- An outline around the members of a cluster, at home if the cluster has no child clusters. -/
structure Surrounds (home : String → Region) (clusters : List (Cluster α)) (nodes : List (Node α))
    (id : String) (region : Region) : Prop where
  /-- The squares of the members lie in it. -/
  members : ∀ node ∈ nodes, node.cluster = some id → (squareOf node memberExtent).Within region
  /-- Without child clusters it lies at home. -/
  home : childIds clusters id = [] → region.Within (home id)

/-- Outlines made so far, each within a margin of the field that grows with their number. -/
structure Outlined (bound : ℕ) (home : String → Region) (clusters : List (Cluster α))
    (nodes : List (Node α)) (outlines : List (String × Rect α)) : Prop
    extends Listing clusters outlines where
  /-- The outlines are held. -/
  drawn : ∀ pair ∈ outlines, ∃ region, Spans pair.2 region ∧ region.Regular ∧
    region.Within (field bound (padding * outlines.length)) ∧
      Surrounds home clusters nodes pair.1 region

variable {bound : ℕ} {home : String → Region} {clusters : List (Cluster α)} {nodes : List (Node α)}

/-- What is found among the outlines is held in their field. -/
theorem Outlined.child {outlines : List (String × Rect α)}
    (outlined : Outlined bound home clusters nodes outlines) {child : Rect α} {ids : List String}
    (child_mem : child ∈ ids.filterMap fun id => outlines.lookup id) :
    Drawn bound (padding * outlines.length) child := by
  obtain ⟨id, -, found⟩ := List.mem_filterMap.mp child_mem
  obtain ⟨region, spans, regular, within, -⟩ := outlined.drawn _ (Assoc.mem_of_lookup found)
  constructor <;> rwa [spans.regionOf_eq]

/-- One more cluster is outlined, a padding further out. -/
theorem Outlined.append {outlines : List (String × Rect α)}
    (outlined : Outlined bound home clusters nodes outlines) {id : String}
    (id_mem : id ∈ clusters.map (·.id)) (new : id ∉ outlines.map (·.1)) {outline : Rect α}
    {region : Region} (spans : Spans outline region) (regular : region.Regular)
    (within : region.Within (field bound (padding * outlines.length + padding)))
    (surrounds : Surrounds home clusters nodes id region) :
    Outlined bound home clusters nodes (outlines ++ [(id, outline)]) := by
  have length_eq : padding * (outlines ++ [(id, outline)]).length =
      padding * outlines.length + padding := by
    rw [List.length_append, List.length_singleton, Nat.mul_succ]
  refine ⟨outlined.toListing.append id_mem new outline, ?_⟩
  rw [List.forall_mem_append, List.forall_mem_singleton, length_eq]
  refine ⟨fun pair pair_mem => ?_, region, spans, regular, within, surrounds⟩
  obtain ⟨old, old_spans, old_regular, old_within, surrounds⟩ := outlined.drawn pair pair_mem
  exact ⟨old, old_spans, old_regular,
    old_within.trans (field_within (Nat.le_add_right _ padding)), surrounds⟩

section Visits

variable (settled : Settled bound home clusters nodes) (large : 180 ≤ bound)
  (fits : Fits α (bound + 2 * (padding * (clusters.length + 1) : ℕ))) (canvasWidth : α)

include settled large fits

/-- Once its children are outlined a cluster is outlined itself. -/
theorem exists_enclose {outlines : List (String × Rect α)}
    (outlined : Outlined bound home clusters nodes outlines) {id : String}
    (id_mem : id ∈ clusters.map (·.id)) (new : id ∉ outlines.map (·.1)) :
    ∃ outline, encloseNext nodes clusters canvasWidth outlines id = .ok outline ∧
      Outlined bound home clusters nodes (outlines ++ [(id, outline)]) := by
  obtain ⟨cluster, cluster_mem, rfl⟩ := List.mem_map.mp id_mem
  obtain ⟨x, y, left, top, x_eq, y_eq, x_held, y_held, anchor_home⟩ :=
    settled.anchored cluster cluster_mem
  have home_within : (home cluster.id).Within (field bound (padding * outlines.length)) :=
    (settled.homes _ id_mem).trans (field_within (Nat.zero_le _))
  have member {node : Node α} (node_mem : node ∈ nodes.filter (·.cluster == some cluster.id)) :
      NodeHeld node ∧ ((squareOf node memberExtent).grow padding).Within (home cluster.id) := by
    obtain ⟨all_mem, own⟩ := List.mem_filter.mp node_mem
    exact settled.members node all_mem _ id_mem (beq_iff_eq.mp own)
  have fits_next : Fits α (bound + 2 * (padding * outlines.length + padding : ℕ)) := by
    apply fits.mono
    have length_le := Nat.mul_le_mul_left padding outlined.length_le
    have steps : padding * outlines.length + padding ≤ padding * (clusters.length + 1) := by
      rw [Nat.mul_succ]
      exact Nat.add_le_add_right length_le padding
    have steps_cast := (Nat.cast_le (α := ℚ)).mpr steps
    linarith
  obtain ⟨outline, region, done, spans, encloses⟩ :=
    enclose_spec (fun node node_mem => (member node_mem).1)
      (fun node node_mem =>
        ((Region.within_grow _ padding).trans (member node_mem).2).trans home_within)
      (fun child child_mem => outlined.child child_mem) fits_next large nodes clusters canvasWidth
      x_eq y_eq x_held y_held (anchor_home.trans home_within)
  rw [← Cluster.lastWith?_eq_some settled.ids cluster_mem] at done
  refine ⟨outline, done, outlined.append id_mem new spans encloses.regular encloses.within ?_⟩
  constructor
  · intro node node_mem own
    exact encloses.around node (List.mem_filter.mpr ⟨node_mem, beq_iff_eq.mpr own⟩)
  · intro no_children
    exact encloses.least (by rw [no_children]; rfl) _ (fun node node_mem => (member node_mem).2)
      anchor_home

/-- Every cluster is outlined. -/
theorem exists_ofClusters : ∃ outlines, ofClusters clusters nodes canvasWidth = .ok outlines ∧
    Outlined bound home clusters nodes outlines ∧ clusters.map (·.id) ⊆ outlines.map (·.1) := by
  have nothing : Outlined bound home clusters nodes ([] : List (String × Rect α)) :=
    ⟨listing_nil clusters, by simp⟩
  obtain ⟨outlines, done, -, outlined, all⟩ := exists_ofClusters_of_step settled.ids
    (fun outlines id _ outlined due =>
      exists_enclose settled large fits canvasWidth outlined due.listed due.new) nothing
  exact ⟨outlines, done, outlined, all⟩

end Visits

end Outline
end ClusterDiagram
