import ClusterDiagram.Proofs.GridCells
import ClusterDiagram.Proofs.RealScalars
import ClusterDiagram.Proofs.SettledPlaces
import ClusterDiagram.Session.Edit

/-!
# Pinned layouts

A pinned cluster takes the first of the cells whose centres are nearest to its anchor, and the
others the remaining cells in order. There are always enough of them, whatever cell is pinned.
-/

namespace ClusterDiagram
namespace Layout

/-! ## The nearest cell -/

/-- The distance of the centre of a cell from a point. -/
noncomputable def Cell.distance (cell : Cell ℝ) (x y : ℝ) : ℝ :=
  √((cell.cx - x) ^ 2 + (cell.cy - y) ^ 2)

/-- The first of the cells whose centres are nearest to a point. -/
structure IsNearest (cells : List (Cell ℝ)) (x y : ℝ) (index : ℕ) (cell : Cell ℝ) : Prop where
  /-- The cell with the index. -/
  here : cells[index]? = some cell
  /-- No centre is nearer. -/
  least : ∀ other ∈ cells, cell.distance x y ≤ other.distance x y
  /-- All centres before it are farther. -/
  first : ∀ earlier < index, ∀ other, cells[earlier]? = some other →
    cell.distance x y < other.distance x y

section Nearest

variable {cells : List (Cell ℝ)} {x y : ℝ} {index : ℕ} {cell : Cell ℝ}

theorem isNearest_singleton (cell : Cell ℝ) (x y : ℝ) : IsNearest [cell] x y 0 cell where
  here := rfl
  least := by simp
  first _ earlier := absurd earlier (Nat.not_lt_zero _)

/-- A cell at the end that is not nearer makes no difference. -/
theorem IsNearest.append (nearest : IsNearest cells x y index cell) {last : Cell ℝ}
    (farther : cell.distance x y ≤ last.distance x y) :
    IsNearest (cells ++ [last]) x y index cell := by
  have within : index < cells.length := (List.getElem?_eq_some_iff.mp nearest.here).1
  refine ⟨?_, ?_, ?_⟩
  · rw [List.getElem?_append_left within, nearest.here]
  · rw [List.forall_mem_append, List.forall_mem_singleton]
    exact ⟨nearest.least, farther⟩
  · intro earlier before other other_at
    rw [List.getElem?_append_left (before.trans within)] at other_at
    exact nearest.first earlier before other other_at

/-- A nearer cell at the end is the nearest one. -/
theorem IsNearest.replace (nearest : IsNearest cells x y index cell) {last : Cell ℝ}
    (nearer : last.distance x y < cell.distance x y) :
    IsNearest (cells ++ [last]) x y cells.length last := by
  have least (other : Cell ℝ) (other_mem : other ∈ cells) :
      last.distance x y < other.distance x y :=
    nearer.trans_le (nearest.least other other_mem)
  refine ⟨List.getElem?_concat_length, ?_, ?_⟩
  · rw [List.forall_mem_append, List.forall_mem_singleton]
    exact ⟨fun other other_mem => (least other other_mem).le, le_rfl⟩
  · intro earlier before other other_at
    rw [List.getElem?_append_left before] at other_at
    exact least other (List.mem_of_getElem? other_at)

/-- The scan goes on from the nearest of the cells seen so far to the nearest of all. -/
theorem exists_nearestFrom (nearest : IsNearest cells x y index cell) (rest : List (Cell ℝ)) :
    ∃ index' cell', nearestFrom x y (some (cell.distance x y, index)) cells.length rest =
        some (cell'.distance x y, index') ∧ IsNearest (cells ++ rest) x y index' cell' := by
  induction rest generalizing cells index cell with
  | nil => exact ⟨index, cell, rfl, by rwa [List.append_nil]⟩
  | cons last rest induction =>
      have length_eq : (cells ++ [last]).length = cells.length + 1 := by simp
      have distance_eq : Scalar.hypot (last.cx - x) (last.cy - y) = last.distance x y := rfl
      rw [nearestFrom, distance_eq, Option.map_some, Scalar.isBelow, ← length_eq,
        List.append_cons cells last rest]
      by_cases nearer : last.distance x y < cell.distance x y
      · simp only [nearer, decide_true, if_true]
        exact induction (nearest.replace nearer)
      · simp only [nearer, decide_false, Bool.false_eq_true, if_false]
        exact induction (nearest.append (not_lt.mp nearer))

theorem isNearest_nearestCell (filled : cells ≠ []) (x y : ℝ) :
    ∃ cell, IsNearest cells x y (nearestCell x y cells) cell := by
  obtain ⟨start, rest, rfl⟩ := List.exists_cons_of_ne_nil filled
  obtain ⟨index, cell, found, nearest⟩ :=
    exists_nearestFrom (isNearest_singleton start x y) rest
  have begun : nearestFrom x y none 0 (start :: rest) =
      nearestFrom x y (some (start.distance x y, 0)) [start].length rest := by
    have below : Scalar.isBelow none (start.distance x y) = true := by
      simp [Scalar.isBelow, Scalar.isInfinite]
    have distance_eq : Scalar.hypot (start.cx - x) (start.cy - y) = start.distance x y := rfl
    rw [nearestFrom, distance_eq, Option.map_none, below]
    rfl
  refine ⟨cell, ?_⟩
  rw [nearestCell, begun, found]
  exact nearest

end Nearest

/-! ## The other cells -/

/-- Where the clusters go when one of them is pinned to a cell. -/
structure Pins (ids : List String) (count : ℕ) (pinned : String) (best : ℕ)
    (assignment : List (String × ℕ)) : Prop where
  /-- The pinned cluster is given its cell. -/
  own : assignment.lookup pinned = some best
  /-- The others are given the remaining cells in order, and there are enough of them. -/
  others : (ids.filter (· != pinned)).map (List.lookup · assignment) =
    (((List.range count).filter (· != best)).take (ids.length - 1)).map some
  /-- Every cluster is given one of the cells. -/
  within : ∀ id ∈ ids, ∃ index < count, assignment.lookup id = some index
  /-- No cell is given twice. -/
  distinct : ∀ id ∈ ids, ∀ other ∈ ids, assignment.lookup id = assignment.lookup other → id = other

theorem map_lookup_zip {ids : List String} {free : List ℕ} (distinct : ids.Nodup)
    (enough : ids.length ≤ free.length) :
    ids.map (List.lookup · (Assoc.ofEntries (ids.zip free))) = (free.take ids.length).map some := by
  apply List.ext_getElem
  · simp [enough]
  · intro index index_lt _
    rw [List.length_map] at index_lt
    rw [List.getElem_map, lookup_zip distinct enough index_lt, List.getElem_map, List.getElem_take]

/-- Over any scalars, a pinned cluster takes a cell and the others find enough cells left. -/
theorem pins_assignCells {α : Type} [Scalar α] {ids : List String} (distinct : ids.Nodup)
    {cells : List (Cell α)} (enough : ids.length ≤ cells.length) (anchor : Anchor α)
    (pinned_mem : anchor.cluster ∈ ids) :
    Pins ids cells.length anchor.cluster (nearestCell anchor.x anchor.y cells)
      (assignCells ids cells (some anchor)) := by
  have best_lt := nearestCell_lt anchor.x anchor.y (ne_nil_of_enough pinned_mem enough)
  have assigned := assigns_assignCells distinct enough (some anchor)
  have contained : ids.contains anchor.cluster = true := List.contains_iff_mem.mpr pinned_mem
  have assignment_eq : assignCells ids cells (some anchor) =
      (anchor.cluster, nearestCell anchor.x anchor.y cells) ::
        Assoc.ofEntries ((ids.filter (· != anchor.cluster)).zip
          ((List.range cells.length).filter (· != nearestCell anchor.x anchor.y cells))) := by
    rw [assignCells, Option.filter_some, if_pos contained]
  rw [assignment_eq] at assigned ⊢
  have others_length := length_unpinned distinct pinned_mem
  have free_length := length_free best_lt
  refine ⟨List.lookup_cons_self, ?_, assigned.total, assigned.injective⟩
  rw [← others_length, ← map_lookup_zip (distinct.filter _) (by omega)]
  apply List.map_congr_left
  intro id id_mem
  have apart : id ≠ anchor.cluster := by simpa using List.of_mem_filter id_mem
  rw [List.lookup_cons, beq_false_of_ne apart]

theorem exists_nearest_pins {ids : List String} (distinct : ids.Nodup) {cells : List (Cell ℝ)}
    (enough : ids.length ≤ cells.length) (anchor : Anchor ℝ) (pinned_mem : anchor.cluster ∈ ids) :
    ∃ cell, IsNearest cells anchor.x anchor.y (nearestCell anchor.x anchor.y cells) cell ∧
      Pins ids cells.length anchor.cluster (nearestCell anchor.x anchor.y cells)
        (assignCells ids cells (some anchor)) := by
  obtain ⟨cell, nearest⟩ :=
    isNearest_nearestCell (ne_nil_of_enough pinned_mem enough) anchor.x anchor.y
  exact ⟨cell, nearest, pins_assignCells distinct enough anchor pinned_mem⟩

/-- A cluster is at the corner of the cell that it is given. -/
def Stands {α : Type} (cells : List (Cell α)) (assignment : List (String × ℕ))
    (cluster : Cluster α) : Prop :=
  ∃ index cell, assignment.lookup cluster.id = some index ∧ cells[index]? = some cell ∧
    cluster.x = some cell.x ∧ cluster.y = some cell.y

/-- The pinned cluster is at the corner of its cell. -/
theorem Stands.corner {α : Type} {cells : List (Cell α)} {assignment : List (String × ℕ)}
    {cluster : Cluster α} {ids : List String} {count best : ℕ} {cell : Cell α}
    (stands : Stands cells assignment cluster) (pins : Pins ids count cluster.id best assignment)
    (here : cells[best]? = some cell) : cluster.x = some cell.x ∧ cluster.y = some cell.y := by
  obtain ⟨index, place, assigned, place_at, x_eq, y_eq⟩ := stands
  rw [pins.own] at assigned
  rw [← Option.some.inj assigned, here] at place_at
  rw [Option.some.inj place_at]
  exact ⟨x_eq, y_eq⟩

theorem id_settleCluster {α : Type} (cell : String → Option (Cell α)) (cluster : Cluster α) :
    (settleCluster cell cluster).id = cluster.id := by
  rw [settleCluster]
  split <;> rfl

theorem stands_settleCluster {α : Type} [Scalar α] {ids : List String} (distinct : ids.Nodup)
    {cells : List (Cell α)} (enough : ids.length ≤ cells.length) (anchor : Option (Anchor α))
    {cluster : Cluster α} (listed : cluster.id ∈ ids) :
    Stands cells (assignCells ids cells anchor)
      (settleCluster (cellOf ids cells anchor) cluster) := by
  obtain ⟨index, within, assigned⟩ :=
    (assigns_assignCells distinct enough anchor).total cluster.id listed
  have cell_eq : cellOf ids cells anchor cluster.id = some cells[index] := by
    rw [cellOf, if_pos listed, assigned, Option.bind_some, List.getElem?_eq_getElem within]
  rw [settleCluster, cell_eq]
  exact ⟨index, cells[index], assigned, List.getElem?_eq_getElem within, rfl, rfl⟩

/-- Over real numbers a pinned layout succeeds and puts every cluster at the corner of its cell. -/
theorem exists_pinned_layout {clusters : List (Cluster ℝ)} (nodes : List (Node ℝ))
    (anchor : Anchor ℝ) (pinned_mem : anchor.cluster ∈ clusters.map (·.id)) (canvas : Canvas ℝ) :
    ∃ cells moved, gridFor clusters nodes canvas = .ok cells ∧ clusters.length ≤ cells.length ∧
      layout clusters nodes (some anchor) canvas =
        .ok (clusters.map (settleCluster (cellOf (clusters.map (·.id)) cells (some anchor))),
          moved) := by
  have filled : clusters ≠ [] := by
    rintro rfl
    cases pinned_mem
  obtain ⟨cells, cells_eq⟩ := exists_gridFor_ok_real filled nodes canvas
  have enough : clusters.length ≤ cells.length :=
    le_length_gridCells (by simpa using filled) cells_eq
  have settled : ∃ moved, layout clusters nodes (some anchor) canvas = .ok
      (clusters.map (settleCluster (cellOf (clusters.map (·.id)) cells (some anchor))), moved) := by
    rw [layout_eq filled, cells_eq, ← inCell_targetsFor clusters nodes]
    exact ⟨_, rfl⟩
  obtain ⟨moved, layout_eq⟩ := settled
  exact ⟨cells, moved, cells_eq, enough, layout_eq⟩

end Layout

namespace Session

open Layout

/-- Dropping a cluster lays the clusters out with that cluster pinned. -/
theorem exists_dropCluster_ok (context : Context ℝ) {session : Session ℝ} {id : String}
    (id_mem : id ∈ session.graph.clusters.map (·.id)) (point : Point ℝ) :
    ∃ dropped cells, session.dropCluster context id point = .ok dropped ∧
      gridFor session.graph.clusters session.graph.nodes context.settings.canvas = .ok cells ∧
      session.graph.clusters.length ≤ cells.length ∧
      dropped.graph.clusters = session.graph.clusters.map
        (settleCluster (cellOf (session.graph.clusters.map (·.id)) cells
          (some ⟨id, point.x, point.y⟩))) := by
  obtain ⟨cells, moved, cells_eq, enough, layout_eq⟩ :=
    exists_pinned_layout session.graph.nodes ⟨id, point.x, point.y⟩ id_mem context.settings.canvas
  have known : Cluster.isListed session.graph.clusters id = true :=
    Cluster.isListed_iff.mpr id_mem
  have done : ∃ dropped, session.dropCluster context id point = .ok dropped ∧
      dropped.graph.clusters = session.graph.clusters.map (settleCluster
        (cellOf (session.graph.clusters.map (·.id)) cells (some ⟨id, point.x, point.y⟩))) := by
    rw [dropCluster, requireCluster, if_pos known, relayout, arrange, layout_eq]
    exact ⟨_, rfl, rfl⟩
  obtain ⟨dropped, dropped_eq, clusters_eq⟩ := done
  exact ⟨dropped, cells, dropped_eq, cells_eq, enough, clusters_eq⟩

/-- The pinned one of a number of clusters takes the first cell whose centre is nearest to its
anchor, the others the remaining cells in order, and there are always enough of them: with real
numbers in every grid, with any other scalars in every grid that can be computed. So there is no
cell nearer to the point where a cluster is dropped than the cell it comes to. -/
theorem dropCluster_nearest {ids : List String} (distinct : ids.Nodup) (anchor : Anchor ℝ)
    (pinned_mem : anchor.cluster ∈ ids) {width : ℝ} (positive : 0 < width) (height : ℝ)
    (canvas : Canvas ℝ) :
    (∃ cells cell, gridCells ids.length width height canvas = .ok cells ∧
      IsNearest cells anchor.x anchor.y (nearestCell anchor.x anchor.y cells) cell ∧
      Pins ids cells.length anchor.cluster (nearestCell anchor.x anchor.y cells)
        (assignCells ids cells (some anchor))) ∧
    (∀ (context : Context ℝ) (session : Session ℝ), session.graph.clusters.map (·.id) = ids →
      ∃ dropped cells best cell assignment,
        session.dropCluster context anchor.cluster ⟨anchor.x, anchor.y⟩ = .ok dropped ∧
        gridFor session.graph.clusters session.graph.nodes context.settings.canvas = .ok cells ∧
        IsNearest cells anchor.x anchor.y best cell ∧
        Pins ids cells.length anchor.cluster best assignment ∧
        dropped.graph.clusters.map (·.id) = ids ∧
        ∀ cluster ∈ dropped.graph.clusters, Stands cells assignment cluster ∧
          (cluster.id = anchor.cluster → cluster.x = some cell.x ∧ cluster.y = some cell.y)) ∧
    ∀ (α : Type) [Scalar α] (width height : α) (canvas : Canvas α) (x y : α)
      (cells : List (Cell α)), gridCells ids.length width height canvas = .ok cells →
        Pins ids cells.length anchor.cluster (nearestCell x y cells)
          (assignCells ids cells (some ⟨anchor.cluster, x, y⟩)) := by
  have filled : ids.length ≠ 0 := (List.length_pos_of_mem pinned_mem).ne'
  refine ⟨?_, ?_, ?_⟩
  · obtain ⟨cells, cells_eq⟩ := exists_gridCells_ok_real ids.length positive height canvas
    have enough := le_length_gridCells filled cells_eq
    obtain ⟨cell, nearest, pins⟩ := exists_nearest_pins distinct enough anchor pinned_mem
    exact ⟨cells, cell, cells_eq, nearest, pins⟩
  · rintro context session rfl
    obtain ⟨dropped, cells, dropped_eq, cells_eq, enough, clusters_eq⟩ :=
      exists_dropCluster_ok context pinned_mem ⟨anchor.x, anchor.y⟩
    rw [← List.length_map (·.id)] at enough
    obtain ⟨cell, nearest, pins⟩ := exists_nearest_pins distinct enough anchor pinned_mem
    refine ⟨dropped, cells, _, cell, _, dropped_eq, cells_eq, nearest, pins, ?_, ?_⟩
    · rw [clusters_eq, List.map_map]
      exact List.map_congr_left fun cluster _ => id_settleCluster _ cluster
    · rw [clusters_eq, List.forall_mem_map]
      intro cluster cluster_mem
      have stands := stands_settleCluster distinct enough (some anchor)
        (List.mem_map_of_mem cluster_mem)
      refine ⟨stands, ?_⟩
      intro own
      rw [← own] at pins
      exact stands.corner pins nearest.here
  · intro α _ width height canvas x y cells cells_eq
    exact pins_assignCells distinct (le_length_gridCells filled cells_eq) ⟨anchor.cluster, x, y⟩
      pinned_mem

/-- Three clusters on a canvas that holds two of them in a row. -/
private def threeSession : Session ℝ where
  graph.clusters := [⟨"a", "A", none, none, none⟩, ⟨"b", "B", none, none, none⟩,
    ⟨"c", "C", none, none, none⟩]

private def narrowContext : Context ℝ where
  settings := { canvas := ⟨800, 600⟩, serviceAddress := "", usesRemote := false, timeout := 10 }
  token := toString

/-- The last of three clusters can be pinned anywhere, and be dropped there. -/
theorem dropCluster_nearest_three :
    let ids := ["a", "b", "c"]
    ids.Nodup ∧ "c" ∈ ids ∧ (0 : ℝ) < 240 ∧
    (∃ cells cell, gridCells ids.length (240 : ℝ) 240 ⟨800, 600⟩ = .ok cells ∧
      IsNearest cells 500 430 (nearestCell 500 430 cells) cell ∧
      Pins ids cells.length "c" (nearestCell 500 430 cells)
        (assignCells ids cells (some ⟨"c", 500, 430⟩))) ∧
    ∃ dropped cells best cell assignment,
      threeSession.dropCluster narrowContext "c" ⟨500, 430⟩ = .ok dropped ∧
      gridFor threeSession.graph.clusters threeSession.graph.nodes narrowContext.settings.canvas =
        .ok cells ∧
      IsNearest cells 500 430 best cell ∧ Pins ids cells.length "c" best assignment ∧
      dropped.graph.clusters.map (·.id) = ids ∧
      ∀ cluster ∈ dropped.graph.clusters, Stands cells assignment cluster ∧
        (cluster.id = "c" → cluster.x = some cell.x ∧ cluster.y = some cell.y) := by
  intro ids
  have distinct : ids.Nodup := by decide
  have pinned_mem : "c" ∈ ids := by decide
  have positive : (0 : ℝ) < 240 := by norm_num
  have nearest := dropCluster_nearest distinct ⟨"c", 500, 430⟩ pinned_mem positive 240
    ⟨800, 600⟩
  exact ⟨distinct, pinned_mem, positive, nearest.1, nearest.2.1 narrowContext threeSession rfl⟩

end Session
end ClusterDiagram
