import ClusterDiagram.Proofs.SettledPlaces

/-!
# Where members start

Over exact numbers the places where nodes start make no difference to a layout, with one exception:
the only member of a cluster stays at zero along an axis where it starts at zero, and comes to the
middle of its cell from everywhere else.
-/

namespace ClusterDiagram
namespace Layout

/-! ## Every cluster has a cell -/

section Cells

variable {α : Type} [Scalar α]

theorem exists_mem_lookup_zip {ids : List String} {free : List Nat}
    (enough : ids.length ≤ free.length) {id : String} (id_mem : id ∈ ids) :
    ∃ index ∈ free, (Assoc.ofEntries (ids.zip free)).lookup id = some index := by
  have found : ((Assoc.ofEntries (ids.zip free)).lookup id).isSome := by
    rw [Assoc.isSome_lookup_iff, Assoc.mem_keys_ofEntries, List.map_fst_zip enough]
    exact id_mem
  obtain ⟨index, index_eq⟩ := Option.isSome_iff_exists.mp found
  exact ⟨index, (List.of_mem_zip (Assoc.ofEntries_subset _ (Assoc.mem_of_lookup index_eq))).2,
    index_eq⟩

/-- Even when ids are repeated, there are enough cells to assign. -/
theorem exists_lookup_assignCells {ids : List String} {cells : List (Cell α)}
    (enough : ids.length ≤ cells.length) (anchor : Option (Anchor α)) {id : String}
    (id_mem : id ∈ ids) :
    ∃ index < cells.length, (assignCells ids cells anchor).lookup id = some index := by
  rw [assignCells]
  split
  · have room : ids.length ≤ (List.range ids.length).length := List.length_range.ge
    obtain ⟨index, index_mem, found⟩ := exists_mem_lookup_zip room id_mem
    exact ⟨index, (List.mem_range.mp index_mem).trans_le enough, found⟩
  · rename_i pinned pinned_eq
    obtain ⟨-, pinned_mem⟩ := Option.filter_eq_some_iff.mp pinned_eq
    rw [List.contains_iff_mem] at pinned_mem
    have best_lt := nearestCell_lt pinned.x pinned.y (ne_nil_of_enough pinned_mem enough)
    by_cases same : id = pinned.cluster
    · subst same
      exact ⟨_, best_lt, List.lookup_cons_self⟩
    · have fewer : (ids.filter (· != pinned.cluster)).length < ids.length :=
        List.length_filter_lt_length_iff_exists.mpr ⟨pinned.cluster, pinned_mem, by simp⟩
      have room : (ids.filter (· != pinned.cluster)).length ≤
          ((List.range cells.length).filter (· != nearestCell pinned.x pinned.y cells)).length := by
        rw [length_free best_lt]
        omega
      have other_mem : id ∈ ids.filter (· != pinned.cluster) := by simpa using ⟨id_mem, same⟩
      obtain ⟨index, index_mem, found⟩ := exists_mem_lookup_zip room other_mem
      refine ⟨index, List.mem_range.mp (List.mem_of_mem_filter index_mem), ?_⟩
      rw [List.lookup_cons, beq_false_of_ne same]
      exact found

theorem exists_mem_cellOf {ids : List String} {cells : List (Cell α)}
    (enough : ids.length ≤ cells.length) (anchor : Option (Anchor α)) {id : String}
    (id_mem : id ∈ ids) : ∃ cell ∈ cells, cellOf ids cells anchor id = some cell := by
  obtain ⟨index, within, found⟩ := exists_lookup_assignCells enough anchor id_mem
  refine ⟨cells[index], List.getElem_mem within, ?_⟩
  rw [cellOf, if_pos id_mem, found, Option.bind_some, List.getElem?_eq_getElem within]

end Cells

/-! ## Places -/

variable [Lengths]

/-- The middle of a cell is not at zero. -/
theorem centre_pos {clusters : List (Cluster ℚ)} (filled : clusters ≠ []) {nodes : List (Node ℚ)}
    {canvas : Canvas ℚ} {cells : List (Cell ℚ)}
    (done : gridFor clusters nodes canvas = .ok cells) :
    ∀ cell ∈ cells, 0 < cell.cx ∧ 0 < cell.cy := by
  intro cell cell_mem
  obtain ⟨width_pos, height_pos⟩ := cellExtents_pos filled nodes
  obtain ⟨columns, left, top, -, -, left_eq, top_eq, -, -, cell_eq⟩ :=
    gridCells_ok (by simpa using filled) done
  obtain ⟨left, rfl⟩ := exists_natCast_of_origin left_eq
  obtain ⟨top, rfl⟩ := exists_natCast_of_origin top_eq
  obtain ⟨index, within, rfl⟩ := List.mem_iff_getElem.mp cell_mem
  have at_index := cell_eq index within
  rw [List.getElem?_eq_getElem within, Option.some_inj] at at_index
  have middle_pos (start part : ℕ) {size : ℚ} (size_pos : 0 < size) :
      0 < ((start : ℤ) : ℚ) + part * size + size / ((2 : ℕ) : ℚ) :=
    add_pos_of_nonneg_of_pos (by positivity) (div_pos size_pos (by norm_num))
  rw [at_index]
  exact ⟨middle_pos left _ width_pos, middle_pos top _ height_pos⟩

omit [Lengths] in
/-- A coordinate at zero and any other are told apart. -/
theorem settleAlone_eq_iff {middle : ℚ} (nonzero : middle ≠ 0) (a b : ℚ) :
    settleAlone middle a = settleAlone middle b ↔ (a = 0 ↔ b = 0) := by
  by_cases first : a = 0 <;> by_cases second : b = 0 <;>
    simp [settleAlone, first, second, nonzero, nonzero.symm]

/-- Where a member comes. -/
theorem settle_member {cell : String → Option (Cell ℚ)} {node : Node ℚ} {id : String}
    {place : Cell ℚ} (member : node.cluster = some id) (cell_eq : cell id = some place)
    (nodes : List (Node ℚ)) (index : ℕ) :
    let size := (membersOf nodes id).length
    let slot := slotAt nodes id index
    (settle cell nodes index node).x = (if size = 1 then settleAlone place.cx node.x
      else place.cx + slotOffset (slot % (packShape size).1) (packShape size).1) ∧
    (settle cell nodes index node).y = (if size = 1 then settleAlone place.cy node.y
      else place.cy + slotOffset (slot / (packShape size).1) (packShape size).2) := by
  simp only [settle, member, Option.bind_some, cell_eq, Option.map_some]
  split <;> exact ⟨rfl, rfl⟩

/-- Two layouts of the same clusters, with nodes that differ in their places only, give the clusters
the same anchors, and a member has the same coordinate in both unless it is the only member of its
cluster and starts at zero in one of them and not in the other. -/
theorem layout_ignores_starts {nodes others : List (Node ℚ)}
    (same : others.map Node.unplaced = nodes.map Node.unplaced) (clusters : List (Cluster ℚ))
    (anchor : Option (Anchor ℚ)) (canvas : Canvas ℚ) :
    ∃ placed moved moved', layout clusters nodes anchor canvas = .ok (placed, moved) ∧
      layout clusters others anchor canvas = .ok (placed, moved') ∧
      ∀ (index : ℕ) (node other : Node ℚ) (id : String), nodes[index]? = some node →
        others[index]? = some other → node.cluster = some id → id ∈ clusters.map (·.id) →
        ∃ first second, moved[index]? = some first ∧ moved'[index]? = some second ∧
          (first.x = second.x ↔
            ((membersOf nodes id).length = 1 → (node.x = 0 ↔ other.x = 0))) ∧
          (first.y = second.y ↔
            ((membersOf nodes id).length = 1 → (node.y = 0 ↔ other.y = 0))) := by
  by_cases filled : clusters = []
  · subst filled
    exact ⟨[], nodes, others, rfl, rfl, by simp⟩
  · obtain ⟨_, done⟩ := exists_layout_ok_rational clusters nodes anchor canvas
    rw [layout_eq_settle filled] at done
    obtain ⟨cells, cells_eq, -⟩ := ok_of_map done
    have laid := layout_eq_settle filled nodes anchor canvas
    have laid' := layout_eq_settle filled others anchor canvas
    rw [gridFor_of_unplaced_eq rfl same, cells_eq] at laid'
    rw [cells_eq] at laid
    refine ⟨_, _, _, laid, laid', ?_⟩
    intro index node other id node_at other_at member id_mem
    have enough : (clusters.map (·.id)).length ≤ cells.length := by
      rw [List.length_map]
      exact le_length_gridCells (by simpa using filled) cells_eq
    obtain ⟨cell, cell_mem, cell_eq⟩ := exists_mem_cellOf enough anchor id_mem
    obtain ⟨cx_pos, cy_pos⟩ := centre_pos filled cells_eq cell cell_mem
    have member' : other.cluster = some id := by
      have at_index := congrArg (fun nodes => nodes[index]?.map (·.cluster)) same
      simpa [node_at, other_at, member] using at_index
    obtain ⟨x_eq, y_eq⟩ := settle_member member cell_eq nodes index
    obtain ⟨x_eq', y_eq'⟩ := settle_member member' cell_eq nodes index
    rw [settle_of_unplaced_eq same, List.getElem?_mapIdx, List.getElem?_mapIdx, node_at, other_at]
    refine ⟨_, _, rfl, rfl, ?_⟩
    rw [x_eq, y_eq, x_eq', y_eq']
    by_cases one : (membersOf nodes id).length = 1
    · simp [one, settleAlone_eq_iff cx_pos.ne', settleAlone_eq_iff cy_pos.ne']
    · simp [one]

/-- A member at a height of five. -/
private def loneAt (x : ℚ) : List (Node ℚ) :=
  [{ id := "n", label := "n", x := x, y := 5, cluster := some "a" }]

omit [Lengths] in
/-- The only member of a cluster comes to another place when it starts at zero. -/
theorem layout_ignores_starts_lone :
    let _ := Lengths.alongAxes
    let clusters : List (Cluster ℚ) := [{ id := "a", label := "a" }]
    (loneAt 5).map Node.unplaced = (loneAt 0).map Node.unplaced ∧
      ∃ placed moved moved', layout clusters (loneAt 0) none ⟨2000, 1200⟩ = .ok (placed, moved) ∧
        layout clusters (loneAt 5) none ⟨2000, 1200⟩ = .ok (placed, moved') ∧
        ∃ first second, moved[0]? = some first ∧ moved'[0]? = some second ∧
          first.x ≠ second.x ∧ first.y = second.y := by
  intro _ clusters
  have same : (loneAt 5).map Node.unplaced = (loneAt 0).map Node.unplaced := rfl
  obtain ⟨placed, moved, moved', laid, laid', members⟩ :=
    layout_ignores_starts same clusters none ⟨2000, 1200⟩
  obtain ⟨first, second, first_at, second_at, x_iff, y_iff⟩ :=
    members 0 _ _ "a" rfl rfl rfl (by simp [clusters])
  refine ⟨same, placed, moved, moved', laid, laid', first, second, first_at, second_at, ?_, ?_⟩
  · rw [Ne, x_iff]
    intro starts
    have moved_zero := (starts rfl).mp rfl
    norm_num at moved_zero
  · exact y_iff.mpr fun _ => Iff.rfl

end Layout
end ClusterDiagram
