import ClusterDiagram.Proofs.ExactLayouts

/-!
# Where a layout settles

The grid and the cells that clusters are assigned depend on ids, links and memberships only. Over
exact numbers a layout puts every cluster and every member of a group where its cell tells, and a
single member in the middle of its cell, save that a coordinate at zero stays at zero. So what was
laid out stays where it is when it is laid out again.
-/

namespace ClusterDiagram
namespace Layout

/-! ## Cells -/

section Cells

variable {α : Type} [Scalar α] {nodes moved : List (Node α)}

/-- The cell that a listed id is assigned. -/
def cellOf (ids : List String) (cells : List (Cell α)) (anchor : Option (Anchor α)) (id : String) :
    Option (Cell α) :=
  if id ∈ ids then ((assignCells ids cells anchor).lookup id).bind (cells[·]?) else none

/-- A cluster at the corner of its cell. -/
def settleCluster (cell : String → Option (Cell α)) (cluster : Cluster α) : Cluster α :=
  match cell cluster.id with
  | some cell => { cluster with x := some cell.x, y := some cell.y }
  | none => cluster

theorem isSome_lookup_footprints (clusters : List (Cluster α)) (nodes : List (Node α))
    (id : String) :
    ((footprints clusters nodes).lookup id).isSome ↔ id ∈ clusters.map (·.id) := by
  rw [← map_zipIdx_fst (·.id) clusters, Assoc.isSome_lookup_iff]
  refine Assoc.mem_keys_ofEntries.trans ?_
  rw [List.map_map]
  rfl

/-- A target lies in the cell of its id. -/
theorem map_cell_lookup_targetsFor (clusters : List (Cluster α)) (nodes : List (Node α))
    (anchor : Option (Anchor α)) (cells : List (Cell α)) (id : String) :
    ((targetsFor (assignCells (clusters.map (·.id)) cells anchor) cells clusters nodes).lookup
      id).map (·.cell) = cellOf (clusters.map (·.id)) cells anchor id := by
  rw [lookup_targetsFor_eq, cellOf]
  have listed := isSome_lookup_footprints clusters nodes id
  cases found : (footprints clusters nodes).lookup id with
  | none =>
      rw [found] at listed
      rw [if_neg fun id_mem => by simpa using listed.mpr id_mem]
      rfl
  | some footprint =>
      rw [found] at listed
      rw [if_pos (listed.mp rfl), Option.bind_some, Option.map_map]
      exact Option.map_id'

theorem inCell_targetsFor (clusters : List (Cluster α)) (nodes : List (Node α))
    (anchor : Option (Anchor α)) (cells : List (Cell α)) :
    inCell (targetsFor (assignCells (clusters.map (·.id)) cells anchor) cells clusters nodes) =
      settleCluster (cellOf (clusters.map (·.id)) cells anchor) := by
  funext cluster
  rw [settleCluster, ← map_cell_lookup_targetsFor clusters nodes, inCell]
  cases (targetsFor (assignCells (clusters.map (·.id)) cells anchor) cells clusters nodes).lookup
      cluster.id with
  | none => rfl
  | some target => rfl

omit [Scalar α] in
theorem settleCluster_settleCluster (cell : String → Option (Cell α)) (cluster : Cluster α) :
    settleCluster cell (settleCluster cell cluster) = settleCluster cell cluster := by
  cases found : cell cluster.id with
  | none => simp only [settleCluster, found]
  | some place => simp only [settleCluster, found]

omit [Scalar α] in
/-- The slots of members do not depend on where they are. -/
theorem slotAt_of_unplaced_eq (nodes_eq : moved.map Node.unplaced = nodes.map Node.unplaced)
    (id : String) (index : Nat) : slotAt moved id index = slotAt nodes id index := by
  apply length_membersOf_of_unplaced_eq
  rw [List.map_take, List.map_take, nodes_eq]

end Cells

/-! ## Members -/

variable [Lengths]

/-- Where a single member comes along an axis: to the middle of its cell, unless it is at zero. -/
def settleAlone (middle a : ℚ) : ℚ :=
  if a = 0 then 0 else middle

/-- Where a node comes that has an index among the nodes. -/
def settle (cell : String → Option (Cell ℚ)) (nodes : List (Node ℚ)) (index : ℕ) (node : Node ℚ) :
    Node ℚ :=
  match node.cluster.bind fun id => (cell id).map fun cell => (id, cell) with
  | none => node
  | some (id, cell) =>
      let size := (membersOf nodes id).length
      let slot := slotAt nodes id index
      if size = 1 then
        { node with x := settleAlone cell.cx node.x, y := settleAlone cell.cy node.y }
      else
        { node with
          x := cell.cx + slotOffset (slot % (packShape size).1) (packShape size).1
          y := cell.cy + slotOffset (slot / (packShape size).1) (packShape size).2 }

/-- A single member moves by the way from its place to the middle, none of it from zero. -/
theorem add_displacement (middle a : ℚ) :
    a + (middle - if Scalar.isZero a then middle else a) = settleAlone middle a := by
  have is_zero : Scalar.isZero a = true ↔ a = 0 := beq_iff_eq
  rw [settleAlone]
  by_cases zero : a = 0
  · rw [if_pos (is_zero.mpr zero), if_pos zero, sub_self, add_zero, zero]
  · rw [if_neg (is_zero.not.mpr zero), if_neg zero, add_sub_cancel]

omit [Lengths] in
theorem settleAlone_settleAlone (middle a : ℚ) :
    settleAlone middle (settleAlone middle a) = settleAlone middle a := by
  rw [settleAlone]
  split
  · rename_i zero
    exact zero.symm
  · rename_i nonzero
    rw [settleAlone] at nonzero ⊢
    exact (if_neg fun zero => nonzero (if_pos zero)).symm

/-- The centre of a cluster with a single member is that member. -/
theorem centre_of_single {clusters : List (Cluster ℚ)} {nodes : List (Node ℚ)} {id : String}
    {node : Node ℚ} {footprint : Footprint ℚ} (single : membersOf nodes id = [node])
    (found : (footprints clusters nodes).lookup id = some footprint) :
    footprint.cx = node.x ∧ footprint.cy = node.y := by
  obtain ⟨⟨cluster, index⟩, -, entry_eq⟩ :=
    List.mem_map.mp (Assoc.ofEntries_subset _ (Assoc.mem_of_lookup found))
  obtain ⟨rfl, rfl⟩ := Prod.mk.inj entry_eq
  have mean (a : ℚ) : Scalar.sum [a] / ((1 : ℕ) : ℚ) = a := by simp [Scalar.sum]
  rw [single]
  exact ⟨mean node.x, mean node.y⟩

/-- A node comes where its cell and the nodes of its cluster tell. -/
theorem placedAt_targetsFor {clusters : List (Cluster ℚ)} {nodes : List (Node ℚ)}
    {anchor : Option (Anchor ℚ)} {cells : List (Cell ℚ)} {index : ℕ} {node : Node ℚ}
    (node_mem : node ∈ nodes) :
    placedAt (targetsFor (assignCells (clusters.map (·.id)) cells anchor) cells clusters nodes)
        (fun id => (membersOf nodes id).length) (fun id => slotAt nodes id index) node =
      settle (cellOf (clusters.map (·.id)) cells anchor) nodes index node := by
  rw [placedAt, settle]
  cases own : node.cluster with
  | none => rfl
  | some id =>
      rw [Option.bind_some, Option.bind_some, ← map_cell_lookup_targetsFor clusters nodes,
        lookup_targetsFor_eq]
      cases found : (footprints clusters nodes).lookup id with
      | none => rfl
      | some footprint =>
          cases assigned : ((assignCells (clusters.map (·.id)) cells anchor).lookup id).bind
              (cells[·]?) with
          | none => rfl
          | some cell =>
              simp only [Option.bind_some, Option.map_some, placeMember, target]
              by_cases one : (membersOf nodes id).length = 1
              · obtain ⟨only, single⟩ := List.length_eq_one_iff.mp one
                have member : node ∈ membersOf nodes id :=
                  List.mem_filter.mpr ⟨node_mem, beq_iff_eq.mpr own⟩
                obtain rfl : node = only := by simpa [single] using member
                obtain ⟨x_eq, y_eq⟩ := centre_of_single single found
                rw [if_pos one, if_pos one, x_eq, y_eq, add_displacement, add_displacement,
                  own]
              · rw [if_neg one, if_neg one, own]

/-- Over exact numbers a layout puts everything where the cells of the grid tell. -/
theorem layout_eq_settle {clusters : List (Cluster ℚ)} (filled : clusters ≠ [])
    (nodes : List (Node ℚ)) (anchor : Option (Anchor ℚ)) (canvas : Canvas ℚ) :
    layout clusters nodes anchor canvas =
      (gridFor clusters nodes canvas).map fun cells =>
        (clusters.map (settleCluster (cellOf (clusters.map (·.id)) cells anchor)),
          nodes.mapIdx (settle (cellOf (clusters.map (·.id)) cells anchor) nodes)) := by
  rw [layout_eq filled]
  congr 1
  funext cells
  refine Prod.ext (congrArg (clusters.map ·) (inCell_targetsFor clusters nodes anchor cells)) ?_
  apply List.ext_getElem?
  intro index
  rw [List.getElem?_mapIdx]
  refine (getElem?_placeMembers _ _ [] nodes index).trans ?_
  cases node_at : nodes[index]? with
  | none => rfl
  | some node =>
      simp only [List.lookup_nil, Option.getD_none, Nat.zero_add, Option.map_some]
      rw [placedAt_targetsFor (List.mem_of_getElem? node_at)]

/-! ## Laying out twice -/

theorem settle_of_unplaced_eq {nodes moved : List (Node ℚ)}
    (nodes_eq : moved.map Node.unplaced = nodes.map Node.unplaced)
    (cell : String → Option (Cell ℚ)) : settle cell moved = settle cell nodes := by
  funext index node
  simp only [settle, length_membersOf_of_unplaced_eq nodes_eq, slotAt_of_unplaced_eq nodes_eq]

theorem settle_settle (cell : String → Option (Cell ℚ)) (nodes : List (Node ℚ)) (index : ℕ)
    (node : Node ℚ) :
    settle cell nodes index (settle cell nodes index node) = settle cell nodes index node := by
  cases own : node.cluster.bind fun id => (cell id).map fun cell => (id, cell) with
  | none => simp only [settle, own]
  | some entry =>
      by_cases one : (membersOf nodes entry.1).length = 1
      · simp only [settle, own, one, if_true, settleAlone_settleAlone]
      · simp only [settle, own, one, if_false]

/-- Everything can be laid out, and laying out the result again changes nothing. -/
theorem layout_idempotent (clusters : List (Cluster ℚ)) (nodes : List (Node ℚ))
    (anchor : Option (Anchor ℚ)) (canvas : Canvas ℚ) :
    ∃ placed moved, layout clusters nodes anchor canvas = .ok (placed, moved) ∧
      layout placed moved anchor canvas = .ok (placed, moved) := by
  obtain ⟨⟨placed, moved⟩, done⟩ := exists_layout_ok_rational clusters nodes anchor canvas
  refine ⟨placed, moved, done, ?_⟩
  by_cases filled : clusters = []
  · subst filled
    obtain ⟨rfl, rfl⟩ := Prod.mk.inj (Except.ok.inj done)
    rfl
  · obtain ⟨clusters_eq, nodes_eq⟩ := unplaced_layout done
    have ids_eq : placed.map (·.id) = clusters.map (·.id) := by
      rw [← Cluster.map_id_unplaced, clusters_eq, Cluster.map_id_unplaced]
    have placed_filled : placed ≠ [] := by
      rintro rfl
      exact filled (List.map_eq_nil_iff.mp ids_eq.symm)
    rw [layout_eq_settle filled] at done
    obtain ⟨cells, cells_eq, result⟩ := ok_of_map done
    obtain ⟨rfl, rfl⟩ := Prod.mk.inj result
    rw [layout_eq_settle placed_filled, gridFor_of_unplaced_eq clusters_eq nodes_eq, cells_eq,
      ids_eq]
    refine congrArg Except.ok (Prod.ext ?_ ?_)
    · refine List.map_map.trans ?_
      exact List.map_congr_left fun cluster _ => settleCluster_settleCluster _ cluster
    · simp only [settle_of_unplaced_eq nodes_eq, List.mapIdx_mapIdx, Function.comp_def,
        settle_settle]

end Layout
end ClusterDiagram
