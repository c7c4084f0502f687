import ClusterDiagram.Proofs.CellGeometry
import ClusterDiagram.Proofs.ExactLayouts

/-!
# Nothing that is laid out overlaps

Over exact numbers a layout gives the clusters cells of one size that do not overlap, each with all
that is drawn of its cluster, and the members of a cluster lie at least a step apart. So no two
members touch, and neither do the outlines of clusters that are not nested.
-/

namespace ClusterDiagram

/-- Whether a rectangle lies in another one, borders included. -/
def Rect.Inside (inner outer : Rect ℚ) : Prop :=
  outer.x ≤ inner.x ∧ inner.x + inner.w ≤ outer.x + outer.w ∧
    outer.y ≤ inner.y ∧ inner.y + inner.h ≤ outer.y + outer.h

/-- Whether two rectangles have at most borders in common. -/
def Rect.Apart (first second : Rect ℚ) : Prop :=
  first.x + first.w ≤ second.x ∨ second.x + second.w ≤ first.x ∨
    first.y + first.h ≤ second.y ∨ second.y + second.h ≤ first.y

/-- The square of a half extent around a node. -/
def Node.square (node : Node ℚ) (half : ℕ) : Rect ℚ :=
  ⟨node.x - half, node.y - half, 2 * half, 2 * half⟩

namespace Layout

open HeldNumbers Outline

/-- Clusters that have cells of one size for themselves, each with everything that is drawn of its
cluster. -/
structure Separated (clusters : List (Cluster ℚ)) (nodes : List (Node ℚ))
    (cell : String → Rect ℚ) : Prop where
  /-- All cells have the same size. -/
  size : ∀ id other, (cell id).w = (cell other).w ∧ (cell id).h = (cell other).h
  /-- No cell is empty. -/
  filled : ∀ id ∈ clusters.map (·.id), 0 < (cell id).w ∧ 0 < (cell id).h
  /-- A cluster is anchored at the corner of its cell. -/
  anchors : ∀ cluster ∈ clusters,
    cluster.x = some (cell cluster.id).x ∧ cluster.y = some (cell cluster.id).y
  /-- The cells of different clusters do not overlap. -/
  cells : ∀ id ∈ clusters.map (·.id), ∀ other ∈ clusters.map (·.id), id ≠ other →
    (cell id).Apart (cell other)
  /-- A member lies in the cell of its cluster with its icon and the padding of the outline. -/
  members : ∀ node ∈ nodes, ∀ id ∈ clusters.map (·.id), node.cluster = some id →
    (node.square (memberExtent + padding)).Inside (cell id)
  /-- The place of an empty cluster lies in its cell. -/
  empties : ∀ id ∈ clusters.map (·.id), membersOf nodes id = [] →
    (⟨(cell id).x, (cell id).y, 180, 100⟩ : Rect ℚ).Inside (cell id)
  /-- Two members of a cluster are a step apart in one direction. -/
  steps : ∀ id ∈ clusters.map (·.id), (membersOf nodes id).Pairwise fun node other =>
    120 ≤ |node.x - other.x| ∨ 120 ≤ |node.y - other.y|

variable [Lengths]

/-! ## Cells -/

/-- The cell of a cluster as a rectangle. -/
def Cells.rect (cells : Cells) (id : String) : Rect ℚ :=
  ⟨cells.left id, cells.top id, cells.width, cells.height⟩

variable {cells : Cells} {clusters : List (Cluster ℚ)} {nodes : List (Node ℚ)}

/-- What is packed into separate cells is separated. -/
theorem Packed.separated (packed : Packed cells clusters nodes) {bound : ℕ}
    (separate : cells.Separate (clusters.map (·.id)) bound) :
    Separated clusters nodes cells.rect where
  size _ _ := ⟨rfl, rfl⟩
  filled := by
    intro id id_mem
    have wide := packed.wide id id_mem
    have high := packed.high id id_mem
    exact ⟨Nat.cast_pos.mpr (by omega), Nat.cast_pos.mpr (by omega)⟩
  anchors := by
    intro cluster cluster_mem
    obtain ⟨x, y, x_eq, y_eq, rfl, rfl⟩ := packed.anchored cluster cluster_mem
    exact ⟨x_eq, y_eq⟩
  cells := by
    intro id id_mem other other_mem different
    simp only [Rect.Apart, Cells.rect, ← Nat.cast_add, Nat.cast_le]
    exact separate.apart id id_mem other other_mem different
  members := by
    intro node node_mem id id_mem member
    obtain ⟨x, y, rfl, rfl, -, -, left, right, top, bottom⟩ :=
      packed.member_within id_mem node_mem member
    simp only [Rect.Inside, Node.square, Cells.rect, memberExtent, padding]
    refine ⟨?_, ?_, ?_, ?_⟩ <;> push_cast <;> linarith
  empties := by
    intro id id_mem _
    obtain ⟨-, -, right, bottom⟩ := packed.emptyRegion_within id_mem
    simp only [emptyRegion, Cells.home, Placement.emptyWidth, Placement.emptyHeight] at right bottom
    simp only [Rect.Inside, Cells.rect, le_refl, true_and]
    push_cast at right bottom
    constructor <;> linarith
  steps := by
    intro id id_mem
    rw [membersOf, List.pairwise_filter, List.pairwise_iff_getElem]
    intro index later index_lt later_lt before member member'
    have node_at := List.getElem?_eq_getElem index_lt
    have slot_lt := slotAt_lt node_at (beq_iff_eq.mp member) before
    obtain ⟨x_eq, y_eq⟩ := packed.members index _ node_at id id_mem (beq_iff_eq.mp member)
    obtain ⟨x_eq', y_eq'⟩ := packed.members later _ (List.getElem?_eq_getElem later_lt) id id_mem
      (beq_iff_eq.mp member')
    rw [show nodes[index].x = _ from x_eq, show nodes[index].y = _ from y_eq,
      show nodes[later].x = _ from x_eq', show nodes[later].y = _ from y_eq']
    exact cells.spots_apart id slot_lt.ne

/-- Whether a node is a member of one of some clusters. -/
def IsMember (clusters : List (Cluster ℚ)) (node : Node ℚ) : Prop :=
  ∃ id ∈ clusters.map (·.id), node.cluster = some id

theorem overlaps_eq_false_iff (first second : Rect ℚ) : first.overlaps second = false ↔
    first.x + first.w < second.x ∨ second.x + second.w < first.x ∨
      first.y + first.h < second.y ∨ second.y + second.h < first.y := by
  simp only [Rect.overlaps, Bool.not_eq_false', Bool.or_eq_true, decide_eq_true_eq, or_assoc]

/-- Icons in different cells do not touch, for the outlines take up the padding. -/
theorem squares_apart {node other : Node ℚ} {cell cell' : Rect ℚ} (apart : cell.Apart cell')
    (inside : (node.square (memberExtent + padding)).Inside cell)
    (inside' : (other.square (memberExtent + padding)).Inside cell') :
    (node.square memberExtent).overlaps (other.square memberExtent) = false := by
  obtain ⟨left, right, top, bottom⟩ := inside
  obtain ⟨left', right', top', bottom'⟩ := inside'
  simp only [Node.square, memberExtent, padding] at left right top bottom left' right' top' bottom'
  push_cast at left right top bottom left' right' top' bottom'
  simp only [overlaps_eq_false_iff, Node.square, memberExtent]
  push_cast
  rcases apart with before | after | above | below
  · exact Or.inl (by linarith)
  · exact Or.inr (Or.inl (by linarith))
  · exact Or.inr (Or.inr (Or.inl (by linarith)))
  · exact Or.inr (Or.inr (Or.inr (by linarith)))

/-- Icons a step apart do not touch. -/
theorem squares_apart_of_step {node other : Node ℚ}
    (step : 120 ≤ |node.x - other.x| ∨ 120 ≤ |node.y - other.y|) :
    (node.square memberExtent).overlaps (other.square memberExtent) = false := by
  simp only [overlaps_eq_false_iff, Node.square, memberExtent]
  push_cast
  rw [le_abs, le_abs] at step
  rcases step with (after | before) | (below | above)
  · exact Or.inr (Or.inl (by linarith))
  · exact Or.inl (by linarith)
  · exact Or.inr (Or.inr (Or.inr (by linarith)))
  · exact Or.inr (Or.inr (Or.inl (by linarith)))

/-- No two icons of members touch. -/
theorem Separated.icons_apart {cell : String → Rect ℚ} (separated : Separated clusters nodes cell) :
    nodes.Pairwise fun node other => IsMember clusters node → IsMember clusters other →
      (node.square memberExtent).overlaps (other.square memberExtent) = false := by
  rw [List.pairwise_iff_getElem]
  rintro index later index_lt later_lt before ⟨id, id_mem, member⟩ ⟨other, other_mem, member'⟩
  by_cases same : id = other
  · have steps := separated.steps id id_mem
    rw [membersOf, List.pairwise_filter, List.pairwise_iff_getElem] at steps
    exact squares_apart_of_step (steps index later index_lt later_lt before
      (beq_iff_eq.mpr member) (beq_iff_eq.mpr (same ▸ member')))
  · exact squares_apart (separated.cells id id_mem other other_mem same)
      (separated.members _ (List.getElem_mem _) id id_mem member)
      (separated.members _ (List.getElem_mem _) other other_mem member')

/-! ## Outlines -/

/-- Outlines whose regions do not touch do not overlap. -/
theorem overlaps_eq_false {first second : Rect ℚ} {region region' : Region}
    (spans : Spans first region) (spans' : Spans second region')
    (apart : region.right < region'.left ∨ region'.right < region.left ∨
      region.bottom < region'.top ∨ region'.bottom < region.top) :
    first.overlaps second = false := by
  obtain ⟨x_eq, y_eq, w_eq, h_eq⟩ := spans
  obtain ⟨x_eq', y_eq', w_eq', h_eq'⟩ := spans'
  rw [overlaps_eq_false_iff, show first.x = _ from x_eq, show first.y = _ from y_eq,
    show first.w = _ from w_eq, show first.h = _ from h_eq, show second.x = _ from x_eq',
    show second.y = _ from y_eq', show second.w = _ from w_eq', show second.h = _ from h_eq',
    add_sub_cancel, add_sub_cancel, add_sub_cancel, add_sub_cancel]
  exact apart

/-- Clusters without children have outlines that do not touch. -/
theorem Packed.outlines_apart (packed : Packed cells clusters nodes)
    (ids : (clusters.map (·.id)).Nodup) {bound : ℕ}
    (separate : cells.Separate (clusters.map (·.id)) bound)
    (flat : ∀ id, childIds clusters id = []) (canvasWidth : ℚ) :
    ∃ outlines, Outline.ofClusters clusters nodes canvasWidth = .ok outlines ∧
      (outlines.map (·.1)).Perm (clusters.map (·.id)) ∧
      outlines.Pairwise fun first second => first.2.overlaps second.2 = false := by
  by_cases filled : clusters = []
  · subst filled
    exact ⟨[], rfl, List.Perm.refl _, List.Pairwise.nil⟩
  · obtain ⟨outlines, done, outlined, all⟩ := exists_ofClusters (packed.settled ids separate)
      (packed.le_bound filled separate) (fits_rational _) canvasWidth
    refine ⟨outlines, done, ?_, ?_⟩
    · exact outlined.toListing.perm ids all
    · refine (List.pairwise_map.mp outlined.keys).imp_of_mem ?_
      intro first second first_mem second_mem different
      obtain ⟨region, spans, -, -, surrounds⟩ := outlined.drawn first first_mem
      obtain ⟨region', spans', -, -, surrounds'⟩ := outlined.drawn second second_mem
      exact overlaps_eq_false spans spans' (Cells.homes_apart separate
        (outlined.listed (List.mem_map_of_mem first_mem))
        (outlined.listed (List.mem_map_of_mem second_mem)) different (surrounds.home (flat _))
        (surrounds'.home (flat _)))

/-! ## Layouts -/

/-- Over exact numbers everything is packed after a layout. -/
theorem exists_packed_rational (ids : (clusters.map (·.id)).Nodup)
    (off_axes : ∀ node ∈ nodes, node.x ≠ 0 ∧ node.y ≠ 0) {anchor : Option (Anchor ℚ)}
    {canvas : Canvas ℚ} {placed : List (Cluster ℚ)} {moved : List (Node ℚ)}
    (done : layout clusters nodes anchor canvas = .ok (placed, moved)) :
    ∃ (cells : Cells) (bound : ℕ), Packed cells placed moved ∧
      cells.Separate (clusters.map (·.id)) bound := by
  by_cases filled : clusters = []
  · subst filled
    obtain ⟨rfl, rfl⟩ := Prod.mk.inj (Except.ok.inj done)
    exact ⟨⟨0, 0, fun _ => 0, fun _ => 0⟩, 0, ⟨by simp, by simp, by simp, by simp⟩,
      ⟨by simp, by simp⟩⟩
  · obtain ⟨cells, bound, packed, separate, -⟩ := exists_packed ids filled done
      (fun node node_mem => (off_axes node node_mem).imp movable_rational movable_rational) le_rfl
      (reaches_rational _ _ _ _) (reaches_rational _ _ _ _)
    exact ⟨cells, bound, packed, separate⟩

/-- Layout never overlaps what it places: it gives the clusters separate cells, with their members
at least a step apart, so that no two icons of members touch; and when no cluster has a listed
parent, no two outlines touch. -/
theorem layout_separated {clusters : List (Cluster ℚ)} (ids : (clusters.map (·.id)).Nodup)
    {nodes : List (Node ℚ)} (off_axes : ∀ node ∈ nodes, node.x ≠ 0 ∧ node.y ≠ 0)
    (anchor : Option (Anchor ℚ)) (canvas : Canvas ℚ) :
    ∃ placed moved, layout clusters nodes anchor canvas = .ok (placed, moved) ∧
      placed.map Cluster.unplaced = clusters.map Cluster.unplaced ∧
      moved.map Node.unplaced = nodes.map Node.unplaced ∧
      (∃ cell, Separated placed moved cell) ∧
      (moved.Pairwise fun node other => IsMember placed node → IsMember placed other →
        (node.square memberExtent).overlaps (other.square memberExtent) = false) ∧
      ((∀ cluster ∈ clusters, ∀ parent, cluster.parent = some parent →
          parent ∉ clusters.map (·.id)) → ∀ canvasWidth : ℚ,
        ∃ outlines, Outline.ofClusters placed moved canvasWidth = .ok outlines ∧
          (outlines.map (·.1)).Perm (clusters.map (·.id)) ∧
          outlines.Pairwise fun first second => first.2.overlaps second.2 = false) := by
  obtain ⟨⟨placed, moved⟩, done⟩ := exists_layout_ok_rational clusters nodes anchor canvas
  obtain ⟨cells, bound, packed, separate⟩ := exists_packed_rational ids off_axes done
  obtain ⟨clusters_eq, nodes_eq⟩ := unplaced_layout done
  have ids_eq : placed.map (·.id) = clusters.map (·.id) := by
    rw [← Cluster.map_id_unplaced, clusters_eq, Cluster.map_id_unplaced]
  rw [← ids_eq] at ids separate
  have separated := packed.separated separate
  refine ⟨placed, moved, done, clusters_eq, nodes_eq, ⟨_, separated⟩, separated.icons_apart, ?_⟩
  intro roots canvasWidth
  rw [← ids_eq] at roots ⊢
  refine packed.outlines_apart ids separate (childIds_eq_nil ?_) canvasWidth
  intro cluster cluster_mem parent below
  obtain ⟨original, original_mem, same⟩ : ∃ original ∈ clusters,
      original.unplaced = cluster.unplaced := by
    rw [← List.mem_map, ← clusters_eq]
    exact List.mem_map_of_mem cluster_mem
  apply roots original original_mem parent
  rw [← Cluster.unplaced_parent, same]
  exact below

/-- Lengths that are right along the axes, and the direction of the first axis. -/
@[reducible] private def axisLengths : Lengths where
  hypot x y := |x| + |y|
  heading _ _ := (1, 0)

/-- A cluster and another one of the same kind, at given corners. -/
private def groupsAt (x y x' y' : Option ℚ) : List (Cluster ℚ) :=
  [{ id := "full", label := "full", x := x, y := y },
    { id := "empty", label := "empty", x := x', y := y' }]

/-- Two members of the first cluster at given points. -/
private def pairAt (x y x' y' : ℚ) : List (Node ℚ) :=
  [{ id := "a", label := "a", x := x, y := y, cluster := some "full" },
    { id := "b", label := "b", x := x', y := y', cluster := some "full" }]

omit [Lengths] in
/-- A cluster with two members and an empty one that is pinned above it. -/
theorem layout_separated_pinned :
    let _ : Lengths := axisLengths
    ∃ placed moved, layout (groupsAt none none none none) (pairAt 80 60 80 240)
        (some ⟨"empty", 420, 200⟩) ⟨800, 600⟩ = .ok (placed, moved) ∧
      placed = groupsAt (some 264) (some 320) (some 264) (some 100) ∧
      moved = pairAt 360 430 480 430 ∧ (∃ cell, Separated placed moved cell) ∧
      ∃ outlines, Outline.ofClusters placed moved 2000 = .ok outlines ∧
        outlines.Pairwise fun first second => first.2.overlaps second.2 = false := by
  let _ : Lengths := axisLengths
  have ids : ((groupsAt none none none none).map (·.id)).Nodup := by decide
  have off_axes : ∀ node ∈ pairAt 80 60 80 240, node.x ≠ 0 ∧ node.y ≠ 0 := by decide +kernel
  obtain ⟨placed, moved, done, -, -, separated, -, disjoint⟩ :=
    layout_separated ids off_axes (some ⟨"empty", 420, 200⟩) ⟨800, 600⟩
  have computed : (layout (groupsAt none none none none) (pairAt 80 60 80 240)
      (some ⟨"empty", 420, 200⟩) ⟨800, 600⟩).toOption =
        some (groupsAt (some 264) (some 320) (some 264) (some 100), pairAt 360 430 480 430) := by
    decide +kernel
  rw [done] at computed
  obtain ⟨rfl, rfl⟩ := Prod.mk.inj (Option.some.inj computed)
  obtain ⟨outlines, drawn, -, apart⟩ := disjoint (by simp [groupsAt]) 2000
  exact ⟨_, _, done, rfl, rfl, separated, outlines, drawn, apart⟩

end Layout
end ClusterDiagram
