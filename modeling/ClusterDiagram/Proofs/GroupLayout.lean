import ClusterDiagram.Proofs.Computations
import ClusterDiagram.Proofs.Renaming
import Mathlib.Data.List.Forall2

/-!
# Layouts forget how a group lay

The members of a cluster that has two or more are packed anew, wherever they were. Only floating
nodes and single members count with their places, so that two lists of nodes that agree on these are
laid out alike.
-/

namespace ClusterDiagram
namespace Layout

variable {α : Type}

/-! ## Cells -/

section Cells

variable [Scalar α] {count : Nat} {width height : α} {canvas : Canvas α} {cells : List (Cell α)}

theorem gridColumns_ne_zero (filled : count ≠ 0) {extent : α} {columns : Nat}
    (done : gridColumns count width extent = .ok columns) : columns ≠ 0 := by
  have positive (chosen : Nat) : (Nat.max 1 chosen).min count ≠ 0 :=
    Nat.one_le_iff_ne_zero.mp
      (Nat.le_min.mpr ⟨Nat.le_max_left 1 chosen, Nat.one_le_iff_ne_zero.mpr filled⟩)
  dsimp only [gridColumns] at done
  split at done
  · obtain ⟨whole, -, done⟩ := ok_of_bind done
    exact Except.ok.inj done ▸ positive _
  · exact Except.ok.inj done ▸ positive _

theorem le_ceilDiv_mul (count : Nat) {size : Nat} (positive : size ≠ 0) :
    count ≤ ceilDiv count size * size := by
  have whole := Nat.div_add_mod (count + size - 1) size
  have rest := Nat.mod_lt (count + size - 1) (Nat.pos_of_ne_zero positive)
  rw [ceilDiv, Nat.mul_comm]
  omega

/-- There is a cell for every cluster. -/
theorem le_length_gridCells (filled : count ≠ 0)
    (done : gridCells count width height canvas = .ok cells) : count ≤ cells.length := by
  obtain ⟨columns, columns_eq, done⟩ := ok_of_bind done
  obtain ⟨left, -, done⟩ := ok_of_bind done
  obtain ⟨top, -, done⟩ := ok_of_bind done
  obtain rfl := Except.ok.inj done
  simpa [List.length_flatMap] using le_ceilDiv_mul count (gridColumns_ne_zero filled columns_eq)

/-- Without an anchor a cluster gets the cell at its own place. -/
theorem lookup_assignCells {ids : List String} (distinct : ids.Nodup) {index : Nat} {id : String}
    (at_index : ids[index]? = some id) : (assignCells ids cells none).lookup id = some index := by
  obtain ⟨bound, rfl⟩ := List.getElem?_eq_some_iff.mp at_index
  have keys : ((ids.zip (List.range ids.length)).map (·.1)).Nodup := by
    rwa [List.map_fst_zip (by rw [List.length_range])]
  change (Assoc.ofEntries (ids.zip (List.range ids.length))).lookup ids[index] = some index
  rw [Assoc.ofEntries_of_nodup keys]
  apply Assoc.lookup_of_mem keys
  refine List.mem_iff_getElem.mpr ⟨index, by simpa using bound, ?_⟩
  simp

end Cells

/-! ## Nodes that count with their places -/

/-- A node that floats or is the only member of its cluster. -/
def Alone (nodes : List (Node α)) (node : Node α) : Prop :=
  ∀ id, node.cluster = some id → (membersOf nodes id).length ≤ 1

/-- Nodes that are the same up to the places of those that have company in their clusters. -/
def SameOutsideGroups (nodes moved : List (Node α)) : Prop :=
  List.Forall₂ (fun node other => other.unplaced = node.unplaced ∧
    (Alone nodes node → other = node)) nodes moved

/-- How many members a cluster has does not depend on where they are. -/
theorem length_membersOf_of_unplaced_eq {nodes moved : List (Node α)}
    (same : moved.map Node.unplaced = nodes.map Node.unplaced) (id : String) :
    (membersOf moved id).length = (membersOf nodes id).length := by
  have members : (membersOf moved id).map Node.unplaced =
      (membersOf nodes id).map Node.unplaced := by
    apply filter_of_map_eq same
    intro other _ node _ agree
    exact congrArg (fun node : Node Unit => node.cluster == some id) agree
  simpa using congrArg List.length members

section Same

variable {nodes moved : List (Node α)} (same : SameOutsideGroups nodes moved)

include same

theorem SameOutsideGroups.map_unplaced :
    moved.map Node.unplaced = nodes.map Node.unplaced := by
  rw [← List.forall₂_eq_eq_eq, List.forall₂_map_left_iff, List.forall₂_map_right_iff]
  exact same.flip.imp fun _ _ agree => agree.1

theorem SameOutsideGroups.length_membersOf (id : String) :
    (membersOf moved id).length = (membersOf nodes id).length :=
  length_membersOf_of_unplaced_eq same.map_unplaced id

omit same in
/-- Nodes that are chosen by what they hold, all of them alone, are the same. -/
theorem filter_eq_of_alone {all : List (Node α)} {p : Node α → Bool}
    (by_content : ∀ node other : Node α, other.unplaced = node.unplaced → p other = p node)
    (alone : ∀ node ∈ nodes, p node = true → Alone all node)
    (agree : List.Forall₂ (fun node other => other.unplaced = node.unplaced ∧
      (Alone all node → other = node)) nodes moved) : moved.filter p = nodes.filter p := by
  induction agree with
  | nil => rfl
  | cons first _ induction =>
      rename_i node other nodes moved _
      rw [List.forall_mem_cons] at alone
      rw [List.filter_cons, List.filter_cons, by_content node other first.1, induction alone.2]
      split
      · rename_i chosen
        rw [first.2 (alone.1 chosen)]
      · rfl

/-- A cluster with at most one member has the same members. -/
theorem SameOutsideGroups.membersOf_eq {id : String} (few : (membersOf nodes id).length ≤ 1) :
    membersOf moved id = membersOf nodes id := by
  refine filter_eq_of_alone ?_ ?_ same
  · exact fun node other content =>
      congrArg (fun node : Node Unit => node.cluster == some id) content
  · intro node _ member another another_eq
    obtain rfl := Option.some.inj ((beq_iff_eq.mp member).symm.trans another_eq)
    exact few

/-- Floating nodes are the same. -/
theorem SameOutsideGroups.eq_of_floating (floating : ∀ node ∈ nodes, node.cluster = none) :
    moved = nodes := by
  have all : moved.filter (fun _ => true) = nodes.filter fun _ => true := by
    refine filter_eq_of_alone (fun _ _ _ => rfl) ?_ same
    intro node node_mem _ id cluster_eq
    rw [floating node node_mem] at cluster_eq
    cases cluster_eq
  rwa [List.filter_true, List.filter_true] at all

end Same

/-! ## Targets -/

section Targets

variable [Scalar α]

/-- The extent of a cluster depends on its depth and the number of its members only. -/
theorem extent_footprint {members others : List (Node α)}
    (same_length : others.length = members.length) (cluster other : Cluster α)
    (index columns depth : Nat) :
    (footprint other index others columns depth).w =
        (footprint cluster index members columns depth).w ∧
      (footprint other index others columns depth).h =
        (footprint cluster index members columns depth).h := by
  have same_empty : others.isEmpty = members.isEmpty := by
    rw [Bool.eq_iff_iff, List.isEmpty_iff_length_eq_zero, List.isEmpty_iff_length_eq_zero,
      same_length]
  rw [footprint, footprint, same_empty, same_length]
  split <;> exact ⟨rfl, rfl⟩

omit [Scalar α] in
/-- What is computed of the items alone does not depend on their indices. -/
theorem map_zipIdx_fst {β γ : Type} (f : β → γ) (items : List β) :
    (items.zipIdx.map fun entry => f entry.1) = items.map f := by
  conv_rhs => rw [← List.zipIdx_map_fst 0 items, List.map_map]
  rfl

/-- The footprint of the cluster at an index. -/
def footprintAt (clusters : List (Cluster α)) (nodes : List (Node α)) (index : Nat)
    (cluster : Cluster α) : Footprint α :=
  footprint cluster index (membersOf nodes cluster.id) (guessColumns clusters.length)
    (ClusterTree.depth (ClusterTree.parents clusters) cluster.id)

/-- Where every cluster moves when the cells of the grid and their assignment are given. -/
def targetsFor (assignment : List (String × Nat)) (cells : List (Cell α))
    (clusters : List (Cluster α)) (nodes : List (Node α)) : List (String × Target α) :=
  (footprints clusters nodes).filterMap fun entry =>
    ((assignment.lookup entry.1).bind (cells[·]?)).map fun cell => (entry.1, target entry.2 cell)

/-- Where every cluster moves when no cluster is pinned. -/
def targetsIn (cells : List (Cell α)) (clusters : List (Cluster α)) (nodes : List (Node α)) :
    List (String × Target α) :=
  targetsFor (assignCells (clusters.map (·.id)) cells none) cells clusters nodes

/-- Where an id moves, by its footprint and the cell that it is assigned. -/
theorem lookup_targetsFor_eq (assignment : List (String × Nat)) (cells : List (Cell α))
    (clusters : List (Cluster α)) (nodes : List (Node α)) (id : String) :
    (targetsFor assignment cells clusters nodes).lookup id =
      ((footprints clusters nodes).lookup id).bind fun footprint =>
        ((assignment.lookup id).bind (cells[·]?)).map (target footprint) := by
  have found := Assoc.lookup_filterMap
    (Assoc.nodup_keys_ofEntries (clusters.zipIdx.map fun entry =>
      (entry.1.id, footprintAt clusters nodes entry.2 entry.1)))
    (fun id footprint =>
      ((assignment.lookup id).bind (cells[·]?)).map (target footprint)) id
  simp only [Option.map_map] at found
  exact found

variable {clusters : List (Cluster α)} (ids : (clusters.map (·.id)).Nodup)

include ids

theorem footprints_eq (nodes : List (Node α)) :
    footprints clusters nodes = (clusters.zipIdx.map fun entry =>
      (entry.1.id, footprintAt clusters nodes entry.2 entry.1)) ∧
    ((footprints clusters nodes).map (·.1)).Nodup := by
  have keys : ((clusters.zipIdx.map fun entry =>
      (entry.1.id, footprintAt clusters nodes entry.2 entry.1)).map (·.1)).Nodup := by
    rw [List.map_map]
    exact (map_zipIdx_fst (·.id) clusters).symm ▸ ids
  have entries := Assoc.ofEntries_of_nodup keys
  exact ⟨entries, (congrArg (List.map (·.1)) entries).symm ▸ keys⟩

theorem lookup_footprints {index : Nat} {cluster : Cluster α}
    (cluster_at : clusters[index]? = some cluster) (nodes : List (Node α)) :
    (footprints clusters nodes).lookup cluster.id =
      some (footprintAt clusters nodes index cluster) := by
  obtain ⟨entries, keys⟩ := footprints_eq ids nodes
  apply Assoc.lookup_of_mem keys
  rw [entries]
  exact List.mem_map.mpr
    ⟨(cluster, index), List.mem_zipIdx_iff_getElem?.mpr cluster_at, rfl⟩

/-- A cluster moves to the cell that it is assigned. -/
theorem lookup_targetsFor {assignment : List (String × Nat)} {cells : List (Cell α)}
    {index place : Nat} {cluster : Cluster α} {cell : Cell α}
    (cluster_at : clusters[index]? = some cluster)
    (assigned : assignment.lookup cluster.id = some place) (cell_at : cells[place]? = some cell)
    (nodes : List (Node α)) :
    (targetsFor assignment cells clusters nodes).lookup cluster.id =
      some (target (footprintAt clusters nodes index cluster) cell) := by
  rw [lookup_targetsFor_eq, lookup_footprints ids cluster_at, Option.bind_some, assigned,
    Option.bind_some, cell_at, Option.map_some]

/-- A cluster moves to the cell at its own place. -/
theorem lookup_targetsIn {cells : List (Cell α)} {index : Nat} {cluster : Cluster α} {cell : Cell α}
    (cluster_at : clusters[index]? = some cluster) (cell_at : cells[index]? = some cell)
    (nodes : List (Node α)) :
    (targetsIn cells clusters nodes).lookup cluster.id =
      some (target (footprintAt clusters nodes index cluster) cell) := by
  have id_at : (clusters.map (·.id))[index]? = some cluster.id := by
    rw [List.getElem?_map, cluster_at]
    rfl
  exact lookup_targetsFor ids cluster_at (lookup_assignCells ids id_at) cell_at nodes

end Targets

/-! ## Layouts -/

section Layouts

variable [Scalar α] {clusters : List (Cluster α)} {nodes moved : List (Node α)}

/-- Whether a cluster has targets that lead to the same cell and are the same unless it holds a
group. -/
def SameTargets (nodes : List (Node α)) (targets others : List (String × Target α)) (id : String) :
    Prop :=
  ∃ target other, targets.lookup id = some target ∧ others.lookup id = some other ∧
    other.cell = target.cell ∧ ((membersOf nodes id).length ≤ 1 → other = target)

theorem sameTargets_of_same (ids : (clusters.map (·.id)).Nodup)
    (same : SameOutsideGroups nodes moved) {cells : List (Cell α)}
    (enough : clusters.length ≤ cells.length) {cluster : Cluster α}
    (cluster_mem : cluster ∈ clusters) :
    SameTargets nodes (targetsIn cells clusters nodes) (targetsIn cells clusters moved)
      cluster.id := by
  obtain ⟨index, bound, rfl⟩ := List.mem_iff_getElem.mp cluster_mem
  have cluster_at := List.getElem?_eq_getElem bound
  have cell_at := List.getElem?_eq_getElem (bound.trans_le enough)
  refine ⟨_, _, lookup_targetsIn ids cluster_at cell_at nodes,
    lookup_targetsIn ids cluster_at cell_at moved, rfl, fun few => ?_⟩
  rw [footprintAt, footprintAt, same.membersOf_eq few]

/-- Members of which the same moves whichever group it lies in are placed alike. -/
theorem placeMember_eq_of_unplaced_eq {node other : Node α} {first second : Target α} {size : Nat}
    (several : size ≠ 1) (content : other.unplaced = node.unplaced)
    (same_cell : second.cell = first.cell) (slot : Nat) :
    placeMember second size slot other = placeMember first size slot node := by
  simp only [Node.unplaced, Node.mk.injEq, true_and] at content
  obtain ⟨id_eq, label_eq, name_eq, cluster_eq⟩ := content
  rw [placeMember, placeMember, if_neg several, if_neg several, same_cell, id_eq, label_eq, name_eq,
    cluster_eq]

/-- Nodes that agree outside groups are placed alike. -/
theorem placeMembers_eq_of_same {targets others : List (String × Target α)} {all : List (Node α)}
    (found : ∀ node ∈ nodes, ∀ id, node.cluster = some id → SameTargets all targets others id)
    (same : List.Forall₂ (fun node other => other.unplaced = node.unplaced ∧
      (Alone all node → other = node)) nodes moved) (slots : List (String × Nat)) :
    placeMembers others (fun id => (membersOf all id).length) slots moved =
      placeMembers targets (fun id => (membersOf all id).length) slots nodes := by
  induction same generalizing slots with
  | nil => rfl
  | cons agree _ induction =>
      rename_i node other nodes moved _
      rw [List.forall_mem_cons] at found
      have cluster_eq : other.cluster = node.cluster :=
        congrArg (fun node : Node Unit => node.cluster) agree.1
      cases own : node.cluster with
      | none =>
          have floating : other = node := agree.2 fun id cluster_eq => by
            rw [own] at cluster_eq
            cases cluster_eq
          simp only [placeMembers, floating, own, Option.bind_none, induction found.2]
      | some id =>
          obtain ⟨first, second, first_eq, second_eq, same_cell, same_target⟩ := found.1 id own
          simp only [placeMembers, cluster_eq, own, Option.bind_some, first_eq, second_eq,
            Option.map_some, induction found.2, List.cons.injEq, and_true]
          by_cases several : (membersOf all id).length = 1
          · have alone : Alone all node := by
              intro another another_eq
              obtain rfl := Option.some.inj (own.symm.trans another_eq)
              exact several.le
            rw [agree.2 alone, same_target several.le]
          · exact placeMember_eq_of_unplaced_eq several agree.1 same_cell _

/-- A cluster in the cell of its target. -/
def inCell (targets : List (String × Target α)) (cluster : Cluster α) : Cluster α :=
  match targets.lookup cluster.id with
  | some target => { cluster with x := some target.cell.x, y := some target.cell.y }
  | none => cluster

/-- The grid for some clusters and their members. -/
def gridFor (clusters : List (Cluster α)) (nodes : List (Node α)) (canvas : Canvas α) :
    Except ArithmeticError (List (Cell α)) :=
  gridCells clusters.length
    (greatest ((footprints clusters nodes).map (·.2.w)) + ((120 : Nat) : α))
    (greatest ((footprints clusters nodes).map (·.2.h)) + ((120 : Nat) : α)) canvas

/-- A layout puts clusters and members where the cells of the grid are. -/
theorem layout_eq (filled : clusters ≠ []) (nodes : List (Node α)) (anchor : Option (Anchor α))
    (canvas : Canvas α) :
    layout clusters nodes anchor canvas = (gridFor clusters nodes canvas).map fun cells =>
      let targets :=
        targetsFor (assignCells (clusters.map (·.id)) cells anchor) cells clusters nodes
      (clusters.map (inCell targets),
        placeMembers targets (fun id => (membersOf nodes id).length) [] nodes) := by
  have some_cluster : clusters.isEmpty = false := by simpa using filled
  simp only [layout, some_cluster]
  rfl

theorem layout_eq_map (filled : clusters ≠ []) (nodes : List (Node α)) (canvas : Canvas α) :
    layout clusters nodes none canvas = (gridFor clusters nodes canvas).map fun cells =>
      (clusters.map (inCell (targetsIn cells clusters nodes)),
        placeMembers (targetsIn cells clusters nodes) (fun id => (membersOf nodes id).length) []
          nodes) :=
  layout_eq filled nodes none canvas

omit [Scalar α] in
theorem parents_of_unplaced_eq {others : List (Cluster α)}
    (clusters_eq : others.map Cluster.unplaced = clusters.map Cluster.unplaced) :
    ClusterTree.parents others = ClusterTree.parents clusters := by
  have links := congrArg (List.map fun cluster : Cluster Unit => (cluster.id, cluster.parent))
    clusters_eq
  rw [List.map_map, List.map_map] at links
  exact congrArg Assoc.ofEntries links

/-- The extents of clusters do not depend on where anything lies. -/
theorem map_extents_of_unplaced_eq {others : List (Cluster α)}
    (clusters_eq : others.map Cluster.unplaced = clusters.map Cluster.unplaced)
    (nodes_eq : moved.map Node.unplaced = nodes.map Node.unplaced) :
    (footprints others moved).map (fun entry => (entry.1, entry.2.w, entry.2.h)) =
      (footprints clusters nodes).map fun entry => (entry.1, entry.2.w, entry.2.h) := by
  have ids_eq : others.map (·.id) = clusters.map (·.id) := by
    rw [← Cluster.map_id_unplaced, clusters_eq, Cluster.map_id_unplaced]
  have length_eq : others.length = clusters.length := by
    simpa using congrArg List.length ids_eq
  have extents (clusters : List (Cluster α)) (nodes : List (Node α)) :
      (footprints clusters nodes).map (fun entry => (entry.1, entry.2.w, entry.2.h)) =
        Assoc.ofEntries (clusters.zipIdx.map fun entry => (entry.1.id,
          (footprintAt clusters nodes entry.2 entry.1).w,
          (footprintAt clusters nodes entry.2 entry.1).h)) := by
    have mapped := Assoc.map_ofEntries (fun footprint : Footprint α => (footprint.w, footprint.h))
      (clusters.zipIdx.map fun entry =>
        (entry.1.id, footprintAt clusters nodes entry.2 entry.1))
    rw [List.map_map] at mapped
    exact mapped
  rw [extents, extents]
  congr 1
  apply List.ext_getElem (by simp [length_eq])
  intro index other_lt lt
  rw [List.length_map, List.length_zipIdx] at other_lt lt
  have id_eq : others[index].id = clusters[index].id := by
    have at_index := congrArg (fun ids => ids[index]?) ids_eq
    simpa [other_lt, lt] using at_index
  have sizes := extent_footprint (length_membersOf_of_unplaced_eq nodes_eq clusters[index].id)
    clusters[index] others[index] index (guessColumns clusters.length)
    (ClusterTree.depth (ClusterTree.parents clusters) clusters[index].id)
  simp only [List.getElem_map, List.getElem_zipIdx, Nat.zero_add, footprintAt, id_eq, length_eq,
    parents_of_unplaced_eq clusters_eq, sizes]

theorem map_extent_of_unplaced_eq {others : List (Cluster α)}
    (clusters_eq : others.map Cluster.unplaced = clusters.map Cluster.unplaced)
    (nodes_eq : moved.map Node.unplaced = nodes.map Node.unplaced) :
    (footprints others moved).map (·.2.w) = (footprints clusters nodes).map (·.2.w) ∧
      (footprints others moved).map (·.2.h) = (footprints clusters nodes).map (·.2.h) := by
  have extents := map_extents_of_unplaced_eq clusters_eq nodes_eq
  have widths := congrArg (List.map (·.2.1)) extents
  have heights := congrArg (List.map (·.2.2)) extents
  rw [List.map_map, List.map_map] at widths heights
  exact ⟨widths, heights⟩

/-- The grid does not depend on where anything lies. -/
theorem gridFor_of_unplaced_eq {others : List (Cluster α)}
    (clusters_eq : others.map Cluster.unplaced = clusters.map Cluster.unplaced)
    (nodes_eq : moved.map Node.unplaced = nodes.map Node.unplaced) (canvas : Canvas α) :
    gridFor others moved canvas = gridFor clusters nodes canvas := by
  obtain ⟨width_eq, height_eq⟩ := map_extent_of_unplaced_eq clusters_eq nodes_eq
  have length_eq : others.length = clusters.length := by
    simpa using congrArg List.length clusters_eq
  rw [gridFor, gridFor, width_eq, height_eq, length_eq]

/-- Whether there is a layout does not depend on where anything lies. -/
theorem exists_layout_ok_of_unplaced_eq {others : List (Cluster α)}
    (clusters_eq : others.map Cluster.unplaced = clusters.map Cluster.unplaced)
    (nodes_eq : moved.map Node.unplaced = nodes.map Node.unplaced) {canvas : Canvas α}
    {placed : List (Cluster α) × List (Node α)}
    (done : layout clusters nodes none canvas = .ok placed) :
    ∃ again, layout others moved none canvas = .ok again := by
  have length_eq : others.length = clusters.length := by
    simpa using congrArg List.length clusters_eq
  cases empty : clusters with
  | nil =>
      rw [empty, List.length_nil, List.length_eq_zero_iff] at length_eq
      rw [length_eq]
      exact ⟨_, rfl⟩
  | cons cluster rest =>
      have filled : clusters ≠ [] := by simp [empty]
      have others_filled : others ≠ [] := by
        rw [← List.length_pos_iff, length_eq, List.length_pos_iff]
        exact filled
      rw [layout_eq_map filled] at done
      obtain ⟨cells, cells_eq, -⟩ := ok_of_map done
      rw [layout_eq_map others_filled, gridFor_of_unplaced_eq clusters_eq nodes_eq, cells_eq]
      exact ⟨_, rfl⟩

/-- Where groups lay before makes no difference to a layout. -/
theorem layout_eq_of_same (ids : (clusters.map (·.id)).Nodup)
    (listed : ∀ node ∈ nodes, ∀ id, node.cluster = some id → id ∈ clusters.map (·.id))
    (same : SameOutsideGroups nodes moved) (canvas : Canvas α) :
    layout clusters moved none canvas = layout clusters nodes none canvas := by
  cases empty : clusters with
  | nil =>
      have floating : ∀ node ∈ nodes, node.cluster = none := by
        intro node node_mem
        cases own : node.cluster with
        | none => rfl
        | some id => simpa [empty] using listed node node_mem id own
      rw [same.eq_of_floating floating]
  | cons cluster rest =>
      have filled : clusters ≠ [] := by simp [empty]
      rw [← empty, layout_eq_map filled, layout_eq_map filled,
        gridFor_of_unplaced_eq rfl same.map_unplaced]
      cases grid : gridFor clusters nodes canvas with
      | error error => rfl
      | ok cells =>
          have enough := le_length_gridCells (by simpa using filled) grid
          have targets {cluster : Cluster α} (cluster_mem : cluster ∈ clusters) :=
            sameTargets_of_same ids same enough cluster_mem
          have sizes : (fun id => (membersOf moved id).length) =
              fun id => (membersOf nodes id).length := funext same.length_membersOf
          refine congrArg Except.ok (Prod.ext ?_ ?_)
          · apply List.map_congr_left
            intro cluster cluster_mem
            obtain ⟨first, second, first_eq, second_eq, same_cell, -⟩ := targets cluster_mem
            rw [inCell, inCell, first_eq, second_eq]
            simp only [same_cell]
          · simp only [sizes]
            refine placeMembers_eq_of_same ?_ same []
            intro node node_mem id cluster_eq
            obtain ⟨cluster, cluster_mem, rfl⟩ :=
              List.mem_map.mp (listed node node_mem id cluster_eq)
            exact targets cluster_mem

end Layouts

end Layout
end ClusterDiagram
