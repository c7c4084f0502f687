import ClusterDiagram.Proofs.CellGeometry

/-!
# Hit testing

The innermost cluster at a point is the deepest one whose outline holds the point, the first listed
among equally deep ones. After a layout the outline of a cluster holds its members; the outline of
another cluster reaches a member only around child clusters.
-/

namespace ClusterDiagram
namespace Outline

/-! ## The deepest of some clusters -/

section Deepest

variable {depths : List (String × ℕ)} {ids : List String}

/-- The innermost of some clusters is deeper than those before it and at least as deep as those
after it. -/
theorem exists_foldl_deeper (filled : ids ≠ []) : ∃ best front back,
    ids.foldl (deeper depths) none = some best ∧ ids = front ++ best :: back ∧
      (∀ id ∈ front, (depths.lookup id).getD 0 < (depths.lookup best).getD 0) ∧
      ∀ id ∈ back, (depths.lookup id).getD 0 ≤ (depths.lookup best).getD 0 := by
  induction ids using List.reverseRecOn with
  | nil => exact absurd rfl filled
  | append_singleton ids last induction =>
      rw [List.foldl_append]
      by_cases first : ids = []
      · subst first
        exact ⟨last, [], [], rfl, rfl, by simp, by simp⟩
      · obtain ⟨best, front, back, found, ids_eq, below, not_above⟩ := induction first
        simp only [found, List.foldl_cons, List.foldl_nil, deeper]
        split
        · rename_i greater
          refine ⟨last, ids, [], rfl, rfl, ?_, by simp⟩
          intro id id_mem
          rw [ids_eq, List.mem_append, List.mem_cons] at id_mem
          rcases id_mem with before | rfl | after
          · exact (below id before).trans greater
          · exact greater
          · exact (not_above id after).trans_lt greater
        · rename_i not_greater
          refine ⟨best, front, back ++ [last], rfl, by simp [ids_eq], below, ?_⟩
          rw [List.forall_mem_append, List.forall_mem_singleton]
          exact ⟨not_above, not_lt.mp not_greater⟩

/-- What stands before another id in a part of a list also does in the whole. -/
theorem idxOf_lt_idxOf {id other : String} (distinct : ids.Nodup)
    (ordered : [id, other].Sublist ids) : ids.idxOf id < ids.idxOf other := by
  obtain ⟨front, back, rfl, id_mem, rest⟩ := List.cons_sublist_iff.mp ordered
  have other_mem : other ∈ back := List.singleton_sublist.mp rest
  have apart := (List.nodup_append.mp distinct).2.2
  have not_front : other ∉ front := fun other_front => apart other other_front other other_mem rfl
  rw [List.idxOf_append_of_mem id_mem, List.idxOf_append_of_notMem not_front]
  exact (List.idxOf_lt_length_iff.mpr id_mem).trans_le (Nat.le_add_right _ _)

/-- The innermost of some clusters is the one that no other goes before, by depth and then by its
place in the whole list. -/
theorem foldl_deeper_eq_some_iff {all : List String} (distinct : all.Nodup)
    (part : ids.Sublist all) {id : String} :
    ids.foldl (deeper depths) none = some id ↔ id ∈ ids ∧ ∀ other ∈ ids,
      ¬ ((depths.lookup id).getD 0 < (depths.lookup other).getD 0 ∨
        (depths.lookup other).getD 0 = (depths.lookup id).getD 0 ∧
          all.idxOf other < all.idxOf id) := by
  by_cases filled : ids = []
  · simp [filled]
  obtain ⟨best, front, back, found, ids_eq, below, not_above⟩ :=
    @exists_foldl_deeper depths _ filled
  have later {other : String} (other_mem : other ∈ back) : all.idxOf best < all.idxOf other := by
    apply idxOf_lt_idxOf distinct
    have ordered : [best, other].Sublist (best :: back) :=
      (List.singleton_sublist.mpr other_mem).cons_cons best
    exact (ordered.trans (List.sublist_append_right front _)).trans (ids_eq ▸ part)
  have best_mem : best ∈ ids := by simp [ids_eq]
  have place {other : String} (other_mem : other ∈ ids) :
      other ∈ front ∨ other = best ∨ other ∈ back := by
    simpa [ids_eq] using other_mem
  rw [found, Option.some_inj]
  constructor
  · rintro rfl
    refine ⟨best_mem, fun other other_mem precedes => ?_⟩
    rcases place other_mem with before | rfl | after
    · have := below other before
      omega
    · omega
    · have := not_above other after
      have := later after
      omega
  · rintro ⟨id_mem, first⟩
    have best_first := first best best_mem
    rcases place id_mem with before | rfl | after
    · exact absurd (Or.inl (below id before)) best_first
    · rfl
    · have := not_above id after
      have := later after
      omega

end Deepest

variable {α : Type}

/-- Whether a cluster goes before another one when both are hit: it is deeper, or as deep and listed
earlier. -/
def Precedes (clusters : List (Cluster α)) (id other : String) : Prop :=
  let depth := ClusterTree.depth (ClusterTree.parents clusters)
  let index := (clusters.map (·.id)).idxOf
  depth other < depth id ∨ depth id = depth other ∧ index id < index other

theorem not_precedes_self (clusters : List (Cluster α)) (id : String) :
    ¬ Precedes clusters id id := by
  rintro (deeper | ⟨-, earlier⟩)
  · exact lt_irrefl _ deeper
  · exact lt_irrefl _ earlier

variable [Scalar α] {clusters : List (Cluster α)} {nodes : List (Node α)}
  {outlines : List (String × Rect α)} {point : Point α}

/-- Whether the outline of a cluster holds a point. -/
def covers (outlines : List (String × Rect α)) (point : Point α) (id : String) : Bool :=
  (outlines.lookup id).any (holds · point)

omit [Scalar α] in
theorem lookup_depths (ids : (clusters.map (·.id)).Nodup) {id : String}
    (id_mem : id ∈ clusters.map (·.id)) :
    ((ClusterTree.depths clusters).lookup id).getD 0 =
      ClusterTree.depth (ClusterTree.parents clusters) id := by
  obtain ⟨cluster, cluster_mem, rfl⟩ := List.mem_map.mp id_mem
  let entry (cluster : Cluster α) : String × ℕ :=
    (cluster.id, ClusterTree.depth (ClusterTree.parents clusters) cluster.id)
  have keys : ((clusters.map entry).map (·.1)).Nodup := by rwa [List.map_map]
  have found := Assoc.lookup_of_mem keys (List.mem_map_of_mem cluster_mem)
  rw [ClusterTree.depths, Assoc.ofEntries_of_nodup keys, found]
  rfl

/-- Of the clusters whose outlines hold a point the deepest one is hit. -/
theorem clusterAt?_eq_foldl : clusterAt? point clusters outlines =
    ((clusters.map (·.id)).filter (covers outlines point)).foldl
      (deeper (ClusterTree.depths clusters)) none := by
  rw [List.filter_map, List.foldl_map]
  rfl

/-- A cluster is found at a point exactly when its outline holds the point and no other cluster
whose outline does goes before it. -/
theorem clusterAt?_eq_some_iff (ids : (clusters.map (·.id)).Nodup) {id : String} :
    clusterAt? point clusters outlines = some id ↔
      (id ∈ clusters.map (·.id) ∧ covers outlines point id = true) ∧
        ∀ other ∈ clusters.map (·.id), covers outlines point other = true →
          ¬ Precedes clusters other id := by
  have depth_eq {other : String}
      (hit : other ∈ (clusters.map (·.id)).filter (covers outlines point)) :=
    lookup_depths ids (List.mem_of_mem_filter hit)
  rw [clusterAt?_eq_foldl, foldl_deeper_eq_some_iff ids List.filter_sublist]
  constructor
  · rintro ⟨id_mem, first⟩
    refine ⟨List.mem_filter.mp id_mem, fun other listed covered => ?_⟩
    have other_mem := List.mem_filter.mpr ⟨listed, covered⟩
    rw [Precedes, ← depth_eq id_mem, ← depth_eq other_mem]
    exact first other other_mem
  · rintro ⟨hit, first⟩
    have id_mem := List.mem_filter.mpr hit
    refine ⟨id_mem, fun other other_mem => ?_⟩
    obtain ⟨listed, covered⟩ := List.mem_filter.mp other_mem
    rw [depth_eq id_mem, depth_eq other_mem]
    exact first other listed covered

/-- What a hit at a member of a cluster meets. -/
structure HitsMember (clusters : List (Cluster α)) (outlines : List (String × Rect α))
    (node : Node α) (id : String) (hit : Option String) : Prop where
  /-- The outline of its cluster holds the member. -/
  own : covers outlines ⟨node.x, node.y⟩ id = true
  /-- Other clusters whose outlines hold it have child clusters. -/
  others : ∀ other ∈ clusters.map (·.id), other ≠ id →
    covers outlines ⟨node.x, node.y⟩ other = true → childIds clusters other ≠ []
  /-- Its cluster is hit unless one of them goes before. -/
  found : hit = some id ↔
    ∀ other ∈ clusters.map (·.id), covers outlines ⟨node.x, node.y⟩ other = true →
      ¬ Precedes clusters other id

/-- Where no clusters are nested the cluster of the member is hit. -/
theorem HitsMember.eq_own {node : Node α} {id : String} {hit : Option String}
    (hits : HitsMember clusters outlines node id hit)
    (flat : ∀ id, childIds clusters id = []) : hit = some id := by
  refine hits.found.mpr fun other listed covered precedes => ?_
  by_cases same : other = id
  · subst same
    exact not_precedes_self clusters other precedes
  · exact hits.others other listed same covered (flat other)

/-! ## Hits in a layout -/

open HeldNumbers Layout

variable [HeldNumbers α] {bound : ℕ}

/-- Settled clusters stay settled when nodes are taken away. -/
theorem Settled.subset {home : String → Region} (settled : Settled bound home clusters nodes)
    {fewer : List (Node α)} (subset : fewer ⊆ nodes) : Settled bound home clusters fewer :=
  { settled with members := fun node node_mem => settled.members node (subset node_mem) }

theorem contains_of_square_within {x y : ℚ} {distance : ℕ} {region : Region}
    (within : (Region.around x y distance).Within region) : region.Contains x y := by
  obtain ⟨left, top, right, bottom⟩ := within
  have distance_nonneg : (0 : ℚ) ≤ distance := Nat.cast_nonneg distance
  simp only [Region.around, Region.grow] at left top right bottom
  constructor <;> linarith

/-- A point lies in one home at most. -/
theorem home_unique {cells : Cells} {ids : List String} (separate : cells.Separate ids bound)
    {id other : String} (id_mem : id ∈ ids) (other_mem : other ∈ ids) {x y : ℚ}
    (inside : (cells.home id).Contains x y) (inside' : (cells.home other).Contains x y) :
    id = other := by
  by_contra different
  obtain ⟨left, top, right, bottom⟩ := inside
  obtain ⟨left', top', right', bottom'⟩ := inside'
  rcases Cells.homes_apart separate id_mem other_mem different (Region.Within.refl _)
    (Region.Within.refl _) with before | after | above | below <;> linarith

section Settled

variable {cells : Cells} (settled : Settled bound cells.home clusters nodes)
  (separate : cells.Separate (clusters.map (·.id)) bound) (large : 180 ≤ bound)
  (fits : Fits α (bound + 2 * (padding * (clusters.length + 1) : ℕ))) (canvasWidth : α)

include settled separate large fits

/-- When everything is at home, members are hit as they should be. -/
theorem exists_hitsMember {node : Node α} (node_mem : node ∈ nodes) {id : String}
    (id_mem : id ∈ clusters.map (·.id)) (member : node.cluster = some id) :
    ∃ outlines, ofClusters clusters nodes canvasWidth = .ok outlines ∧
      HitsMember clusters outlines node id
        (clusterAt? ⟨node.x, node.y⟩ clusters outlines) := by
  obtain ⟨outlines, done, outlined, all⟩ := exists_ofClusters settled large fits canvasWidth
  obtain ⟨⟨⟨x, x_held, -⟩, y, y_held, -⟩, at_home⟩ := settled.members node node_mem id id_mem member
  rw [squareOf, number_eq x_held, number_eq y_held] at at_home
  have home_contains := contains_of_square_within ((Region.within_grow _ padding).trans at_home)
  have drawn {other : String} {rect : Rect α} (found : outlines.lookup other = some rect) :
      ∃ region, Surrounds cells.home clusters nodes other region ∧
        (holds rect ⟨node.x, node.y⟩ = true ↔ region.Contains x y) := by
    obtain ⟨region, spans, regular, within, surrounds⟩ :=
      outlined.drawn _ (Assoc.mem_of_lookup found)
    refine ⟨region, surrounds, holds_iff spans (held_of_within ?_ regular within) x_held y_held⟩
    apply fits.mono
    have margin_le : padding * outlines.length ≤ padding * (clusters.length + 1) :=
      Nat.mul_le_mul_left _ (outlined.length_le.trans (Nat.le_succ _))
    have margin_cast := (Nat.cast_le (α := ℚ)).mpr margin_le
    linarith
  have own : covers outlines ⟨node.x, node.y⟩ id = true := by
    obtain ⟨rect, found⟩ := Option.isSome_iff_exists.mp (Assoc.isSome_lookup_iff.mpr (all id_mem))
    obtain ⟨region, surrounds, holds_point⟩ := drawn found
    have square := surrounds.members node node_mem member
    rw [squareOf, number_eq x_held, number_eq y_held] at square
    rw [covers, found, Option.any_some, holds_point]
    exact contains_of_square_within square
  refine ⟨outlines, done, own, ?_, ?_⟩
  · intro other other_mem different covered childless
    obtain ⟨rect, found, held⟩ := (Option.any_eq_true _ _).mp covered
    obtain ⟨region, surrounds, holds_point⟩ := drawn found
    exact different (home_unique separate other_mem id_mem
      ((holds_point.mp held).mono (surrounds.home childless)) home_contains)
  · rw [clusterAt?_eq_some_iff settled.ids]
    exact and_iff_right ⟨id_mem, own⟩

end Settled

end Outline
end ClusterDiagram
