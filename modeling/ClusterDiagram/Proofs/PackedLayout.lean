import ClusterDiagram.Proofs.FiniteLayout
import ClusterDiagram.Proofs.GridNumbers

/-!
# Packed layouts

After a layout every cluster is anchored at the corner of a cell of its own, and the members of a
cluster lie at the slots around the centre of its cell. This holds as far as the numbers up to the
end of the grid can be held.
-/

namespace ClusterDiagram
namespace Layout

open HeldNumbers

variable {α : Type} [Scalar α] [HeldNumbers α]

/-! ## Members -/

/-- The cells of a layout: a common size, and a corner for every cluster. -/
structure Cells where
  /-- The common width. -/
  width : ℕ
  /-- The common height. -/
  height : ℕ
  /-- The left edge for each id. -/
  left : String → ℕ
  /-- The top edge for each id. -/
  top : String → ℕ

namespace Cells

/-- The horizontal place of a slot. -/
def spotX (cells : Cells) (id : String) (size slot : ℕ) : ℚ :=
  cells.left id + cells.width / 2 + slotShift (slot % (packShape size).1) (packShape size).1

/-- The vertical place of a slot. -/
def spotY (cells : Cells) (id : String) (size slot : ℕ) : ℚ :=
  cells.top id + cells.height / 2 + slotShift (slot / (packShape size).1) (packShape size).2

end Cells

/-- Clusters and nodes that lie in the cells of a layout. -/
structure Packed (cells : Cells) (clusters : List (Cluster α)) (nodes : List (Node α)) : Prop where
  /-- A cell is wider than its cluster. -/
  wide : ∀ id ∈ clusters.map (·.id), extent Placement.emptyWidth 120
    (packShape (membersOf nodes id).length).1 (membersOf nodes id).length 0 + 120 ≤ cells.width
  /-- A cell is higher than its cluster. -/
  high : ∀ id ∈ clusters.map (·.id), extent Placement.emptyHeight 80
    (packShape (membersOf nodes id).length).2 (membersOf nodes id).length 0 + 120 ≤ cells.height
  /-- A cluster has the corner of its cell as anchor. -/
  anchored : ∀ cluster ∈ clusters, ∃ x y, cluster.x = some x ∧ cluster.y = some y ∧
    Holds x (cells.left cluster.id : ℚ) ∧ Holds y (cells.top cluster.id : ℚ)
  /-- A member lies at its slot. -/
  members : ∀ index node, nodes[index]? = some node → ∀ id ∈ clusters.map (·.id),
    node.cluster = some id →
      Holds node.x (cells.spotX id (membersOf nodes id).length (slotAt nodes id index)) ∧
      Holds node.y (cells.spotY id (membersOf nodes id).length (slotAt nodes id index))

/-- Whether a row of slots around a middle keeps away from zero and from a bound. -/
def HasRow (middle bound : ℚ) (count : ℕ) : Prop :=
  (((count - 1) * Merge.memberStep + 120 : ℕ) : ℚ) / 2 ≤ middle ∧
    middle + (((count - 1) * Merge.memberStep + 120 : ℕ) : ℚ) / 2 ≤ bound

theorem HasRow.within {middle bound : ℚ} {count : ℕ} (row : HasRow middle bound count) :
    0 ≤ middle ∧ middle ≤ bound := by
  have nonneg : (0 : ℚ) ≤ (((count - 1) * Merge.memberStep + 120 : ℕ) : ℚ) := Nat.cast_nonneg _
  obtain ⟨low, high⟩ := row
  constructor <;> linarith

theorem hasRow_of_le {start units count bound : ℕ}
    (room : (count - 1) * Merge.memberStep + 120 ≤ units) (within : start + units ≤ bound) :
    HasRow ((start : ℚ) + units / 2) bound count := by
  have room_cast : (((count - 1) * Merge.memberStep + 120 : ℕ) : ℚ) ≤ units := Nat.cast_le.mpr room
  have within_cast : ((start + units : ℕ) : ℚ) ≤ bound := Nat.cast_le.mpr within
  have start_nonneg : (0 : ℚ) ≤ start := Nat.cast_nonneg start
  rw [Nat.cast_add start] at within_cast
  constructor <;> linarith

/-- Clusters do not get smaller with their depth. -/
theorem extent_zero_le (empty least count members depth : ℕ) :
    extent empty least count members 0 ≤ extent empty least count members depth :=
  Nat.add_le_add_left (Nat.zero_le _) _

/-- The slots of a cluster with members fit into its extent. -/
theorem slots_le_extent (empty least count depth : ℕ) {members : ℕ} (filled : members ≠ 0) :
    (count - 1) * Merge.memberStep + 72 ≤ extent empty least count members depth := by
  rw [extent, if_neg filled]
  exact (Nat.le_max_right least _).trans (Nat.le_add_right _ _)

section Members

variable {boundX boundY : ℚ} (fitsX : Fits α boundX) (fitsY : Fits α boundY)
  {clusters : List (Cluster α)} {nodes : List (Node α)} {node : Node α} {cluster : Cluster α}
  {cell : Cell α} {middleX middleY : ℚ} (heldX : Holds cell.cx middleX)
  (heldY : Holds cell.cy middleY) (halfX : IsHalf middleX) (halfY : IsHalf middleY)

include fitsX fitsY heldX heldY halfX halfY

/-- A member of a cluster is moved to its slot around the centre of a cell. -/
theorem holds_placeMember (node_mem : node ∈ nodes) (member : node.cluster = some cluster.id)
    (movable : Movable node.x ∧ Movable node.y) (index : ℕ) {size slot : ℕ}
    (size_eq : (membersOf nodes cluster.id).length = size) (within : slot < size)
    (rowX : HasRow middleX boundX (packShape size).1)
    (rowY : HasRow middleY boundY (packShape size).2) :
    Holds (placeMember (target (footprintAt clusters nodes index cluster) cell) size slot node).x
      (middleX + slotShift (slot % (packShape size).1) (packShape size).1) ∧
    Holds (placeMember (target (footprintAt clusters nodes index cluster) cell) size slot node).y
      (middleY + slotShift (slot / (packShape size).1) (packShape size).2) := by
  rw [placeMember]
  split
  · rename_i one
    subst one
    obtain ⟨only, members_eq⟩ := List.length_eq_one_iff.mp size_eq
    have node_member : node ∈ membersOf nodes cluster.id :=
      List.mem_filter.mpr ⟨node_mem, beq_iff_eq.mpr member⟩
    obtain rfl : node = only := by simpa [members_eq] using node_member
    obtain rfl : slot = 0 := by omega
    have middle_shift : slotShift 0 1 = 0 := by simp [slotShift]
    have shape_eq : packShape 1 = (1, 1) := rfl
    rw [shape_eq, Nat.zero_mod, Nat.zero_div, middle_shift, add_zero, add_zero, footprintAt,
      members_eq]
    exact ⟨holds_single fitsX movable.1 heldX halfX rowX.within.1 rowX.within.2,
      holds_single fitsY movable.2 heldY halfY rowY.within.1 rowY.within.2⟩
  · exact ⟨holds_slot fitsX heldX halfX (slot_mod_lt slot size) rowX.1 rowX.2,
      holds_slot fitsY heldY halfY (slot_div_lt within) rowY.1 rowY.2⟩

end Members

/-! ## Layouts -/

omit [HeldNumbers α] in
/-- A grid starts on the canvas. -/
theorem exists_natCast_of_origin {count : ℕ} {size extent : α} {start : ℤ}
    (done : origin count size extent = .ok start) : ∃ units : ℕ, start = units := by
  obtain ⟨whole, -, done⟩ := ok_of_bind done
  have on_canvas : 20 ≤ start := Except.ok.inj done ▸ Int.le_max_left _ _
  exact Int.eq_ofNat_of_zero_le (by omega)

theorem part_apart {part other : ℕ} (less : part < other) (start units : ℕ) :
    start + part * units + units ≤ start + other * units := by
  have scaled := Nat.mul_le_mul_right units (Nat.succ_le_of_lt less)
  rw [Nat.succ_mul] at scaled
  omega

/-- Cells with different indices lie beside or above each other. -/
theorem cells_apart {index other : ℕ} (apart : index ≠ other) (columns left top width height : ℕ) :
    left + index % columns * width + width ≤ left + other % columns * width ∨
      left + other % columns * width + width ≤ left + index % columns * width ∨
      top + index / columns * height + height ≤ top + other / columns * height ∨
      top + other / columns * height + height ≤ top + index / columns * height := by
  rcases lt_trichotomy (index % columns) (other % columns) with less | same | greater
  · exact Or.inl (part_apart less left width)
  · rcases lt_trichotomy (index / columns) (other / columns) with less | same_row | greater
    · exact Or.inr (Or.inr (Or.inl (part_apart less top height)))
    · rw [← Nat.div_add_mod index columns, ← Nat.div_add_mod other columns, same, same_row] at apart
      exact absurd rfl apart
    · exact Or.inr (Or.inr (Or.inr (part_apart greater top height)))
  · exact Or.inr (Or.inl (part_apart greater left width))

/-- Whether all numbers up to the end of a grid, and a little beyond, can be held along an axis of
the canvas, however many columns or rows the grid has. -/
def Reaches (canvasExtent : α) (count units : ℕ) (slack : ℚ) : Prop :=
  Fits α (units : ℚ) ∧
    ∀ parts ≤ count, parts ≠ 0 → ∀ (size : α) (start : ℕ), Holds size (units : ℚ) →
      origin parts size canvasExtent = .ok start →
        Fits α (((start + (parts + 1) * units : ℕ) : ℚ) + slack)

/-- A cell whose corner and centre hold those of an id. -/
structure CellHeld (cells : Cells) (id : String) (cell : Cell α) : Prop where
  /-- The left edge. -/
  x : Holds cell.x (cells.left id : ℚ)
  /-- The top edge. -/
  y : Holds cell.y (cells.top id : ℚ)
  /-- The horizontal centre. -/
  cx : Holds cell.cx ((cells.left id : ℚ) + cells.width / 2)
  /-- The vertical centre. -/
  cy : Holds cell.cy ((cells.top id : ℚ) + cells.height / 2)

/-- The cells of some ids: they lie apart and within a bound. -/
structure Cells.Separate (cells : Cells) (ids : List String) (bound : ℕ) : Prop where
  /-- Different ids have cells beside or above each other. -/
  apart : ∀ id ∈ ids, ∀ other ∈ ids, id ≠ other →
    cells.left id + cells.width ≤ cells.left other ∨
      cells.left other + cells.width ≤ cells.left id ∨
      cells.top id + cells.height ≤ cells.top other ∨
      cells.top other + cells.height ≤ cells.top id
  /-- No cell reaches beyond the bound. -/
  within : ∀ id ∈ ids,
    cells.left id + cells.width ≤ bound ∧ cells.top id + cells.height ≤ bound

/-- The cells of a grid that is filled row by row, as they are assigned. -/
def Cells.ofAssignment (width height left top columns : ℕ) (assignment : List (String × ℕ)) :
    Cells where
  width := width
  height := height
  left id := left + (assignment.lookup id).getD 0 % columns * width
  top id := top + (assignment.lookup id).getD 0 / columns * height

section Assignments

variable {width height left top columns rows : ℕ} {assignment : List (String × ℕ)}
  {ids : List String} (assigned : Assigns assignment ids (· < rows * columns))

include assigned

theorem column_lt_row_lt {id : String} (id_mem : id ∈ ids) :
    (assignment.lookup id).getD 0 % columns < columns ∧
      (assignment.lookup id).getD 0 / columns < rows := by
  obtain ⟨place, place_lt, found⟩ := assigned.total id id_mem
  have columns_pos : 0 < columns := Nat.pos_of_mul_pos_left (Nat.zero_lt_of_lt place_lt)
  rw [found, Option.getD_some]
  exact ⟨Nat.mod_lt _ columns_pos, Nat.div_lt_of_lt_mul (Nat.mul_comm rows columns ▸ place_lt)⟩

theorem separate_ofAssignment :
    (Cells.ofAssignment width height left top columns assignment).Separate ids
      (max (left + (columns + 1) * width) (top + (rows + 1) * height)) where
  apart := by
    intro id id_mem other other_mem different
    refine cells_apart (fun same => different ?_) columns left top width height
    obtain ⟨place, -, found⟩ := assigned.total id id_mem
    obtain ⟨place', -, found'⟩ := assigned.total other other_mem
    apply assigned.injective id id_mem other other_mem
    rw [found, found', Option.getD_some, Option.getD_some] at same
    rw [found, found', same]
  within := by
    intro id id_mem
    obtain ⟨column_lt, row_lt⟩ := column_lt_row_lt assigned id_mem
    have column_le := part_apart column_lt left width
    have row_le := part_apart row_lt top height
    rw [Nat.succ_mul, Nat.succ_mul]
    simp only [Cells.ofAssignment]
    omega

omit assigned in
theorem cellHeld_ofAssignment {boundX boundY : ℚ} (fitsX : Fits α boundX) (fitsY : Fits α boundY)
    {wide high : α} (width_held : Holds wide (width : ℚ)) (height_held : Holds high (height : ℚ))
    (width_ne : width ≠ 0) (height_ne : height ≠ 0) {id : String}
    (withinX : ((left + ((assignment.lookup id).getD 0 % columns + 1) * width : ℕ) : ℚ) ≤ boundX)
    (withinY : ((top + ((assignment.lookup id).getD 0 / columns + 1) * height : ℕ) : ℚ) ≤ boundY) :
    CellHeld (Cells.ofAssignment width height left top columns assignment) id
      (cellAt left top wide high ((assignment.lookup id).getD 0 / columns)
        ((assignment.lookup id).getD 0 % columns)) := by
  obtain ⟨x_held, cx_held⟩ := holds_edge fitsX width_held width_ne withinX
  obtain ⟨y_held, cy_held⟩ := holds_edge fitsY height_held height_ne withinY
  exact ⟨x_held, y_held, cx_held, cy_held⟩

end Assignments

section Layouts

variable {clusters placed : List (Cluster α)} {nodes moved : List (Node α)}
  {anchor : Option (Anchor α)} {canvas : Canvas α}

/-- Clusters and nodes that are placed in cells: each cluster is given a target in a cell whose
numbers are held. -/
structure Fills (cells : Cells) (targets : List (String × Target α)) (clusters : List (Cluster α))
    (nodes : List (Node α)) (placed : List (Cluster α)) (moved : List (Node α)) : Prop where
  width_eq : cells.width = cellExtent clusters (widthOf clusters nodes)
  height_eq : cells.height = cellExtent clusters (heightOf clusters nodes)
  placed_eq : placed = clusters.map (inCell targets)
  moved_eq : moved = placeMembers targets (fun id => (membersOf nodes id).length) [] nodes
  /-- A cluster has its footprint as target in its cell. -/
  exists_cell : ∀ cluster ∈ clusters, ∃ index cell, CellHeld cells cluster.id cell ∧
    targets.lookup cluster.id = some (target (footprintAt clusters nodes index cluster) cell)

/-- A layout gives every cluster a cell whose numbers are held. -/
theorem exists_fills (ids : (clusters.map (·.id)).Nodup)
    (filled : clusters ≠ []) (done : layout clusters nodes anchor canvas = .ok (placed, moved))
    {slack : ℚ} (slack_nonneg : 0 ≤ slack)
    (reachX : Reaches canvas.width clusters.length
      (cellExtent clusters (widthOf clusters nodes)) slack)
    (reachY : Reaches canvas.height clusters.length
      (cellExtent clusters (heightOf clusters nodes)) slack) :
    ∃ (cells : Cells) (bound : ℕ) (targets : List (String × Target α)),
      Fills cells targets clusters nodes placed moved ∧
        cells.Separate (clusters.map (·.id)) bound ∧ Fits α (bound + slack) := by
  obtain ⟨wide, reachX⟩ := reachX
  obtain ⟨high, reachY⟩ := reachY
  obtain ⟨width_held, height_held⟩ := holds_cellExtent (wide.max high) ids filled nodes
    (le_max_left _ _) (le_max_right _ _)
  have width_ne : cellExtent clusters (widthOf clusters nodes) ≠ 0 := Nat.succ_ne_zero _
  have height_ne : cellExtent clusters (heightOf clusters nodes) ≠ 0 := Nat.succ_ne_zero _
  generalize width_eq : cellExtent clusters (widthOf clusters nodes) = width at *
  generalize height_eq : cellExtent clusters (heightOf clusters nodes) = height at *
  have count_ne : clusters.length ≠ 0 := by simpa using filled
  rw [layout_eq filled] at done
  obtain ⟨grid, grid_eq, out_eq⟩ := ok_of_map done
  obtain ⟨columns, left, top, columns_ne, columns_le, left_eq, top_eq, enough, length_eq,
    cell_at⟩ := gridCells_ok count_ne grid_eq
  obtain ⟨left, rfl⟩ := exists_natCast_of_origin left_eq
  obtain ⟨top, rfl⟩ := exists_natCast_of_origin top_eq
  have fitsX := reachX columns columns_le columns_ne _ left width_held left_eq
  have fitsY := reachY _ (ceilDiv_le _ _) (ceilDiv_ne_zero count_ne columns_ne) _ top height_held
    top_eq
  have assigned := assigns_assignCells ids
    (show (clusters.map (·.id)).length ≤ grid.length by rwa [List.length_map]) anchor
  generalize assignCells (clusters.map (·.id)) grid anchor = assignment at *
  rw [length_eq] at assigned cell_at
  have separate : (Cells.ofAssignment width height left top columns assignment).Separate _ _ :=
    separate_ofAssignment assigned
  refine ⟨.ofAssignment width height left top columns assignment, _,
    targetsFor assignment grid clusters nodes, ⟨width_eq.symm, height_eq.symm,
      (congrArg Prod.fst out_eq).symm, (congrArg Prod.snd out_eq).symm, ?_⟩, separate, ?_⟩
  · intro cluster cluster_mem
    have id_mem : cluster.id ∈ clusters.map (·.id) := List.mem_map_of_mem cluster_mem
    obtain ⟨index, within, rfl⟩ := List.mem_iff_getElem.mp cluster_mem
    obtain ⟨place, place_lt, found⟩ := assigned.total _ id_mem
    obtain ⟨column_lt, row_lt⟩ := column_lt_row_lt assigned id_mem
    refine ⟨index, _, cellHeld_ofAssignment fitsX fitsY width_held height_held width_ne height_ne
      (le_add_of_le_of_nonneg (Nat.cast_le.mpr ?_) slack_nonneg)
      (le_add_of_le_of_nonneg (Nat.cast_le.mpr ?_) slack_nonneg),
      lookup_targetsFor ids (List.getElem?_eq_getElem within) found ?_ nodes⟩
    · exact Nat.add_le_add_left (Nat.mul_le_mul_right _ (by omega)) _
    · exact Nat.add_le_add_left (Nat.mul_le_mul_right _ (by omega)) _
    · rw [cell_at place place_lt, found]
      rfl
  · rw [Nat.cast_max, ← max_add_add_right]
    exact fitsX.max fitsY

section Filled

variable {cells : Cells} {targets : List (String × Target α)} {bound : ℕ}
  (fills : Fills cells targets clusters nodes placed moved)

include fills

/-- A cluster has the corner of its cell as anchor. -/
theorem Fills.anchored {cluster : Cluster α} (cluster_mem : cluster ∈ placed) :
    ∃ x y, cluster.x = some x ∧ cluster.y = some y ∧
      Holds x (cells.left cluster.id : ℚ) ∧ Holds y (cells.top cluster.id : ℚ) := by
  rw [fills.placed_eq] at cluster_mem
  obtain ⟨original, original_mem, rfl⟩ := List.mem_map.mp cluster_mem
  obtain ⟨index, cell, cell_held, found⟩ := fills.exists_cell original original_mem
  rw [inCell, found]
  exact ⟨_, _, rfl, rfl, cell_held.x, cell_held.y⟩

variable (separate : cells.Separate (clusters.map (·.id)) bound) (fits : Fits α (bound : ℚ))

include separate fits

/-- A member of a cluster lies at its slot once it is moved. -/
theorem Fills.holds_member {cluster : Cluster α} (cluster_mem : cluster ∈ clusters) {index : ℕ}
    {node other : Node α} (node_at : nodes[index]? = some node)
    (member : node.cluster = some cluster.id) (movable : Movable node.x ∧ Movable node.y)
    (other_at : moved[index]? = some other) :
    Holds other.x (cells.spotX cluster.id (membersOf nodes cluster.id).length
        (slotAt nodes cluster.id index)) ∧
      Holds other.y (cells.spotY cluster.id (membersOf nodes cluster.id).length
        (slotAt nodes cluster.id index)) := by
  obtain ⟨place, cell, cell_held, found⟩ := fills.exists_cell cluster cluster_mem
  have other_eq := getElem?_placeMembers targets (fun id => (membersOf nodes id).length) [] nodes
    index
  rw [← fills.moved_eq, other_at, node_at, Option.map_some, Option.some_inj] at other_eq
  simp only [placedAt, member, Option.bind_some, found, Option.map_some, List.lookup_nil,
    Option.getD_none, Nat.zero_add] at other_eq
  have id_mem : cluster.id ∈ clusters.map (·.id) := List.mem_map_of_mem cluster_mem
  have slot_lt := slotAt_lt_length node_at member
  have some_member : (membersOf nodes cluster.id).length ≠ 0 := by omega
  have roomX := (Nat.add_le_add_right (slots_le_extent Placement.emptyWidth 120
    (packShape (membersOf nodes cluster.id).length).1 _ some_member) 120).trans
      (extent_le_cellExtent (widthOf clusters nodes) id_mem)
  have roomY := (Nat.add_le_add_right (slots_le_extent Placement.emptyHeight 80
    (packShape (membersOf nodes cluster.id).length).2 _ some_member) 120).trans
      (extent_le_cellExtent (heightOf clusters nodes) id_mem)
  rw [← fills.width_eq] at roomX
  rw [← fills.height_eq] at roomY
  obtain ⟨withinX, withinY⟩ := separate.within _ id_mem
  rw [other_eq]
  exact holds_placeMember fits fits cell_held.cx cell_held.cy
    ((isHalf_natCast _).add (isHalf_half _)) ((isHalf_natCast _).add (isHalf_half _))
    (List.mem_of_getElem? node_at) member movable place rfl slot_lt
    (hasRow_of_le (by omega) withinX) (hasRow_of_le (by omega) withinY)

end Filled

/-- The clusters and members of a layout lie in their cells. -/
theorem Fills.packed {cells : Cells} {targets : List (String × Target α)} {bound : ℕ}
    (fills : Fills cells targets clusters nodes placed moved)
    (separate : cells.Separate (clusters.map (·.id)) bound) (fits : Fits α (bound : ℚ))
    (done : layout clusters nodes anchor canvas = .ok (placed, moved))
    (movable : ∀ node ∈ nodes, Movable node.x ∧ Movable node.y) : Packed cells placed moved := by
  obtain ⟨clusters_eq, nodes_eq⟩ := unplaced_layout done
  have ids_eq : placed.map (·.id) = clusters.map (·.id) := by
    rw [← Cluster.map_id_unplaced, clusters_eq, Cluster.map_id_unplaced]
  have size_eq := length_membersOf_of_unplaced_eq nodes_eq
  have slot_eq (id : String) (index : ℕ) : slotAt moved id index = slotAt nodes id index := by
    apply length_membersOf_of_unplaced_eq
    rw [List.map_take, List.map_take, nodes_eq]
  refine ⟨?_, ?_, fun _ => fills.anchored, ?_⟩
  · intro id id_mem
    rw [ids_eq] at id_mem
    rw [size_eq, fills.width_eq]
    exact (Nat.add_le_add_right (extent_zero_le _ _ _ _ _) 120).trans
      (extent_le_cellExtent (widthOf clusters nodes) id_mem)
  · intro id id_mem
    rw [ids_eq] at id_mem
    rw [size_eq, fills.height_eq]
    exact (Nat.add_le_add_right (extent_zero_le _ _ _ _ _) 120).trans
      (extent_le_cellExtent (heightOf clusters nodes) id_mem)
  · intro index other other_at id id_mem member
    rw [size_eq, slot_eq]
    have content := congrArg (fun nodes => nodes[index]?) nodes_eq
    rw [List.getElem?_map, List.getElem?_map, other_at, Option.map_some] at content
    obtain ⟨node, node_at, node_eq⟩ := Option.map_eq_some_iff.mp content.symm
    have node_member : node.cluster = some id :=
      (congrArg (fun node : Node Unit => node.cluster) node_eq).trans member
    obtain ⟨cluster, cluster_mem, rfl⟩ := List.mem_map.mp (ids_eq ▸ id_mem)
    exact fills.holds_member separate fits cluster_mem node_at node_member
      (movable node (List.mem_of_getElem? node_at)) other_at

/-- After a layout, clusters and members lie in cells of their own. -/
theorem exists_packed (ids : (clusters.map (·.id)).Nodup)
    (filled : clusters ≠ []) (done : layout clusters nodes anchor canvas = .ok (placed, moved))
    (movable : ∀ node ∈ nodes, Movable node.x ∧ Movable node.y) {slack : ℚ}
    (slack_nonneg : 0 ≤ slack)
    (reachX : Reaches canvas.width clusters.length
      (cellExtent clusters (widthOf clusters nodes)) slack)
    (reachY : Reaches canvas.height clusters.length
      (cellExtent clusters (heightOf clusters nodes)) slack) :
    ∃ (cells : Cells) (bound : ℕ), Packed cells placed moved ∧
      cells.Separate (clusters.map (·.id)) bound ∧ Fits α (bound + slack) := by
  obtain ⟨cells, bound, targets, fills, separate, fits⟩ :=
    exists_fills ids filled done slack_nonneg reachX reachY
  exact ⟨cells, bound, fills.packed separate (fits.mono (le_add_of_nonneg_right slack_nonneg)) done
    movable, separate, fits⟩

end Layouts

end Layout
end ClusterDiagram
