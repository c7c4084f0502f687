import ClusterDiagram.Proofs.GroupLayout

/-!
# Cells and slots

The grid has a cell for every row and column, different clusters are given different cells, and the
members of a cluster are given the slots of its sub-grid one after the other.
-/

namespace ClusterDiagram
namespace Layout

variable {α : Type}

/-! ## Shapes -/

theorem ceilSqrt_ne_zero {count : Nat} (filled : count ≠ 0) : ceilSqrt count ≠ 0 := by
  rw [ceilSqrt]
  cases found : (List.range (count + 1)).find? fun side => decide (count ≤ side * side) with
  | none => exact filled
  | some side =>
      have enough : decide (count ≤ side * side) = true :=
        List.find?_some (p := fun side => decide (count ≤ side * side)) found
      rw [Option.getD_some]
      rintro rfl
      exact filled (Nat.le_zero.mp (of_decide_eq_true enough))

theorem packShape_ne_zero (count : Nat) : (packShape count).1 ≠ 0 := by
  rw [packShape]
  split
  · exact one_ne_zero
  · exact ceilSqrt_ne_zero (by omega)

/-- The sub-grid has a slot for every member. -/
theorem le_packShape_mul (count : Nat) : count ≤ (packShape count).1 * (packShape count).2 := by
  rw [packShape]
  split
  · omega
  · rw [Nat.mul_comm]
    exact le_ceilDiv_mul count (ceilSqrt_ne_zero (by omega))

theorem slot_mod_lt (slot count : Nat) : slot % (packShape count).1 < (packShape count).1 :=
  Nat.mod_lt slot (Nat.pos_of_ne_zero (packShape_ne_zero count))

theorem slot_div_lt {slot count : Nat} (within : slot < count) :
    slot / (packShape count).1 < (packShape count).2 :=
  Nat.div_lt_of_lt_mul (within.trans_le (le_packShape_mul count))

/-! ## The grid -/

theorem getElem?_flatMap_range {β : Type} (f : Nat → Nat → β) {rows columns index : Nat}
    (within : index < rows * columns) :
    ((List.range rows).flatMap fun row => (List.range columns).map (f row))[index]? =
      some (f (index / columns) (index % columns)) := by
  induction rows with
  | zero => omega
  | succ rows induction =>
      have length_eq : ((List.range rows).flatMap fun row =>
          (List.range columns).map (f row)).length = rows * columns := by
        simp [List.length_flatMap]
      rw [List.range_succ, List.flatMap_append, List.flatMap_singleton]
      by_cases before : index < rows * columns
      · rw [List.getElem?_append_left (length_eq ▸ before), induction before]
      · obtain ⟨column, rfl⟩ : ∃ column, index = rows * columns + column :=
          ⟨index - rows * columns, by omega⟩
        have column_lt : column < columns := by
          rw [Nat.succ_mul] at within
          omega
        have positive : 0 < columns := by omega
        rw [List.getElem?_append_right (by omega), length_eq, Nat.add_sub_cancel_left,
          List.getElem?_map, List.getElem?_range column_lt, Option.map_some, Nat.mul_comm rows,
          Nat.mul_add_div positive, Nat.div_eq_of_lt column_lt, Nat.add_zero, Nat.mul_add_mod,
          Nat.mod_eq_of_lt column_lt]

variable [Scalar α]

theorem gridColumns_le {count columns : Nat} {width extent : α}
    (done : gridColumns count width extent = .ok columns) : columns ≤ count := by
  dsimp only [gridColumns] at done
  split at done
  · obtain ⟨whole, -, done⟩ := ok_of_bind done
    exact Except.ok.inj done ▸ Nat.min_le_right _ _
  · exact Except.ok.inj done ▸ Nat.min_le_right _ _

/-- What a grid is made of: columns, the corner of the first cell, and a cell for every index. -/
theorem gridCells_ok {count : Nat} (filled : count ≠ 0) {width height : α} {canvas : Canvas α}
    {cells : List (Cell α)} (done : gridCells count width height canvas = .ok cells) :
    ∃ columns left top, columns ≠ 0 ∧ columns ≤ count ∧
      origin columns width canvas.width = .ok left ∧
      origin (ceilDiv count columns) height canvas.height = .ok top ∧ count ≤ cells.length ∧
      cells.length = ceilDiv count columns * columns ∧
      ∀ index < cells.length, cells[index]? =
        some (cellAt left top width height (index / columns) (index % columns)) := by
  have enough := le_length_gridCells filled done
  obtain ⟨columns, columns_eq, done⟩ := ok_of_bind done
  obtain ⟨left, left_eq, done⟩ := ok_of_bind done
  obtain ⟨top, top_eq, done⟩ := ok_of_bind done
  obtain rfl := Except.ok.inj done
  have length_eq : ((List.range (ceilDiv count columns)).flatMap fun row =>
      (List.range columns).map fun column => cellAt left top width height row column).length =
        ceilDiv count columns * columns := by
    simp [List.length_flatMap]
  exact ⟨columns, left, top, gridColumns_ne_zero filled columns_eq, gridColumns_le columns_eq,
    left_eq, top_eq, enough, length_eq,
    fun index within => getElem?_flatMap_range _ (length_eq ▸ within)⟩

/-! ## Assignment -/

theorem nearestFrom_lt {x y : α} {cells : List (Cell α)} {best : Option (α × Nat)} {index : Nat}
    (bound : ∀ found ∈ best, found.2 < index) :
    ∀ found ∈ nearestFrom x y best index cells, found.2 < index + cells.length := by
  induction cells generalizing best index with
  | nil => exact bound
  | cons cell cells induction =>
      rw [nearestFrom, List.length_cons, Nat.add_comm cells.length, ← Nat.add_assoc]
      apply induction
      split
      · rintro found ⟨⟩
        exact Nat.lt_succ_self index
      · exact fun found found_mem => (bound found found_mem).trans (Nat.lt_succ_self index)

theorem nearestCell_lt (x y : α) {cells : List (Cell α)} (filled : cells ≠ []) :
    nearestCell x y cells < cells.length := by
  rw [nearestCell]
  cases found : nearestFrom x y none 0 cells with
  | none => exact List.length_pos_iff.mpr filled
  | some best =>
      have bound := nearestFrom_lt (fun _ absent => by cases absent) best found
      simpa using bound

/-- An assignment that gives different ids different indices among those allowed. -/
structure Assigns (assignment : List (String × Nat)) (ids : List String) (allowed : Nat → Prop) :
    Prop where
  /-- Every id has an index. -/
  total : ∀ id ∈ ids, ∃ index, allowed index ∧ assignment.lookup id = some index
  /-- No index is given twice. -/
  injective : ∀ id ∈ ids, ∀ other ∈ ids, assignment.lookup id = assignment.lookup other →
    id = other

theorem lookup_zip {ids : List String} {free : List Nat} (distinct : ids.Nodup)
    (enough : ids.length ≤ free.length) {index : Nat} (within : index < ids.length) :
    (Assoc.ofEntries (ids.zip free)).lookup ids[index] = some free[index] := by
  have keys : ((ids.zip free).map (·.1)).Nodup := by
    rwa [List.map_fst_zip enough]
  rw [Assoc.ofEntries_of_nodup keys]
  apply Assoc.lookup_of_mem keys
  exact List.mem_iff_getElem.mpr ⟨index, by simpa using ⟨within, within.trans_le enough⟩, by simp⟩

theorem assigns_zip {ids : List String} {free : List Nat} (distinct : ids.Nodup)
    (distinct_free : free.Nodup) (enough : ids.length ≤ free.length) {allowed : Nat → Prop}
    (free_allowed : ∀ index ∈ free, allowed index) :
    Assigns (Assoc.ofEntries (ids.zip free)) ids allowed where
  total := by
    intro id id_mem
    obtain ⟨index, within, rfl⟩ := List.mem_iff_getElem.mp id_mem
    exact ⟨_, free_allowed _ (List.getElem_mem _), lookup_zip distinct enough within⟩
  injective := by
    intro id id_mem other other_mem same
    obtain ⟨index, within, rfl⟩ := List.mem_iff_getElem.mp id_mem
    obtain ⟨index', within', rfl⟩ := List.mem_iff_getElem.mp other_mem
    rw [lookup_zip distinct enough within, lookup_zip distinct enough within', Option.some_inj,
      distinct_free.getElem_inj_iff] at same
    simp only [same]

/-- One more id takes an index that the others must not have. -/
theorem Assigns.cons {rest : List (String × Nat)} {ids : List String} {allowed : Nat → Prop}
    {pinned : String} {best : Nat} (best_allowed : allowed best)
    (others : Assigns rest (ids.filter (· != pinned)) fun index => allowed index ∧ index ≠ best) :
    Assigns ((pinned, best) :: rest) ids allowed := by
  have here : ((pinned, best) :: rest).lookup pinned = some best := List.lookup_cons_self
  have elsewhere {id : String} (id_mem : id ∈ ids) (apart : id ≠ pinned) :
      id ∈ ids.filter (· != pinned) ∧
        ∃ index, allowed index ∧ index ≠ best ∧ rest.lookup id = some index ∧
          ((pinned, best) :: rest).lookup id = some index := by
    have other_mem : id ∈ ids.filter (· != pinned) := by simpa using ⟨id_mem, apart⟩
    obtain ⟨index, ⟨index_allowed, index_ne⟩, found⟩ := others.total id other_mem
    refine ⟨other_mem, index, index_allowed, index_ne, found, ?_⟩
    rw [List.lookup_cons, beq_false_of_ne apart]
    exact found
  constructor
  · intro id id_mem
    by_cases same : id = pinned
    · exact ⟨best, best_allowed, same ▸ here⟩
    · obtain ⟨-, index, index_allowed, -, -, found⟩ := elsewhere id_mem same
      exact ⟨index, index_allowed, found⟩
  · intro id id_mem other other_mem same
    by_cases first : id = pinned <;> by_cases second : other = pinned
    · rw [first, second]
    · obtain ⟨-, index, -, index_ne, -, found⟩ := elsewhere other_mem second
      rw [first, here, found, Option.some_inj] at same
      exact absurd same.symm index_ne
    · obtain ⟨-, index, -, index_ne, -, found⟩ := elsewhere id_mem first
      rw [second, here, found, Option.some_inj] at same
      exact absurd same index_ne
    · obtain ⟨id_other, index, -, -, rest_found, found⟩ := elsewhere id_mem first
      obtain ⟨other_other, index', -, -, rest_found', found'⟩ := elsewhere other_mem second
      rw [found, found'] at same
      exact others.injective id id_other other other_other
        (rest_found.trans (same.trans rest_found'.symm))

omit [Scalar α] in
theorem ne_nil_of_enough {ids : List String} {cells : List (Cell α)} {id : String}
    (id_mem : id ∈ ids) (enough : ids.length ≤ cells.length) : cells ≠ [] :=
  List.length_pos_iff.mp ((List.length_pos_of_mem id_mem).trans_le enough)

/-- One cell less is free than there are when one is taken. -/
theorem length_free {count best : Nat} (best_lt : best < count) :
    ((List.range count).filter (· != best)).length = count - 1 := by
  rw [← List.nodup_range.erase_eq_filter, List.length_erase_of_mem (List.mem_range.mpr best_lt),
    List.length_range]

/-- One cluster less is left than there are when one is pinned. -/
theorem length_unpinned {ids : List String} (distinct : ids.Nodup) {pinned : String}
    (pinned_mem : pinned ∈ ids) : (ids.filter (· != pinned)).length = ids.length - 1 := by
  rw [← distinct.erase_eq_filter, List.length_erase_of_mem pinned_mem]

/-- Different clusters are given different cells, whether one of them is pinned or not. -/
theorem assigns_assignCells {ids : List String} (distinct : ids.Nodup) {cells : List (Cell α)}
    (enough : ids.length ≤ cells.length) (anchor : Option (Anchor α)) :
    Assigns (assignCells ids cells anchor) ids (· < cells.length) := by
  rw [assignCells]
  split
  · apply assigns_zip distinct List.nodup_range
    · rw [List.length_range]
    · exact fun index index_mem => (List.mem_range.mp index_mem).trans_le enough
  · rename_i pinned pinned_eq
    obtain ⟨-, pinned_mem⟩ := Option.filter_eq_some_iff.mp pinned_eq
    rw [List.contains_iff_mem] at pinned_mem
    have best_lt := nearestCell_lt pinned.x pinned.y (ne_nil_of_enough pinned_mem enough)
    refine Assigns.cons best_lt (assigns_zip (distinct.filter _) (List.nodup_range.filter _) ?_ ?_)
    · rw [length_unpinned distinct pinned_mem, length_free best_lt]
      omega
    · intro index index_mem
      simpa using index_mem

/-! ## Slots -/

/-- The number of members of a cluster before an index. -/
def slotAt (nodes : List (Node α)) (id : String) (index : Nat) : Nat :=
  (membersOf (nodes.take index) id).length

omit [Scalar α] in
theorem slotAt_cons (node : Node α) (nodes : List (Node α)) (id : String) (index : Nat) :
    slotAt (node :: nodes) id (index + 1) =
      (if node.cluster == some id then 1 else 0) + slotAt nodes id index := by
  rw [slotAt, List.take_succ_cons, membersOf, List.filter_cons]
  split
  · rw [List.length_cons, Nat.add_comm]
    rfl
  · rw [Nat.zero_add]
    rfl

omit [Scalar α] in
/-- A later member of a cluster has a later slot. -/
theorem slotAt_lt {nodes : List (Node α)} {id : String} {index later : Nat} {node : Node α}
    (node_at : nodes[index]? = some node) (member : node.cluster = some id)
    (before : index < later) : slotAt nodes id index < slotAt nodes id later := by
  induction nodes generalizing index later with
  | nil => cases node_at
  | cons first nodes induction =>
      obtain ⟨last, rfl⟩ : ∃ last, later = last + 1 := ⟨later - 1, by omega⟩
      cases index with
      | zero =>
          obtain rfl := Option.some.inj node_at
          rw [slotAt_cons, if_pos (beq_iff_eq.mpr member), Nat.add_comm]
          exact Nat.succ_pos _
      | succ index =>
          rw [slotAt_cons, slotAt_cons]
          exact Nat.add_lt_add_left (induction node_at (by omega)) _

omit [Scalar α] in
/-- There are no more slots than members. -/
theorem slotAt_lt_length {nodes : List (Node α)} {id : String} {index : Nat} {node : Node α}
    (node_at : nodes[index]? = some node) (member : node.cluster = some id) :
    slotAt nodes id index < (membersOf nodes id).length := by
  obtain ⟨within, -⟩ := List.getElem?_eq_some_iff.mp node_at
  have all : slotAt nodes id nodes.length = (membersOf nodes id).length := by
    rw [slotAt, List.take_length]
  exact all ▸ slotAt_lt node_at member within

/-- Where a node comes that has the given number in its cluster. -/
def placedAt (targets : List (String × Target α)) (size slot : String → Nat) (node : Node α) :
    Node α :=
  match node.cluster.bind fun id => (targets.lookup id).map fun target => (id, target) with
  | none => node
  | some (id, target) => placeMember target (size id) (slot id) node

/-- Only the numbers in clusters with a target count. -/
theorem placedAt_congr {targets : List (String × Target α)} (size : String → Nat)
    {slot other : String → Nat}
    (same : ∀ id target, targets.lookup id = some target → slot id = other id) :
    placedAt targets size slot = placedAt targets size other := by
  funext node
  rw [placedAt, placedAt]
  cases node.cluster with
  | none => rfl
  | some id =>
      rw [Option.bind_some]
      cases found : targets.lookup id with
      | none => rfl
      | some target => simp only [Option.map_some, same id target found]

omit [Scalar α] in
/-- A member takes a slot of its cluster. -/
theorem slot_after_member {node : Node α} {own_id : String} (member : node.cluster = some own_id)
    (slots : List (String × Nat)) (nodes : List (Node α)) (id : String) (index : Nat) :
    ((Assoc.put own_id ((slots.lookup own_id).getD 0 + 1) slots).lookup id).getD 0 +
        slotAt nodes id index =
      (slots.lookup id).getD 0 + slotAt (node :: nodes) id (index + 1) := by
  rw [slotAt_cons, Assoc.lookup_put, member]
  by_cases here : id = own_id
  · simp only [here, beq_self_eq_true, if_true, Option.getD_some]
    omega
  · have elsewhere : ¬ some own_id = some id := fun same => here (Option.some.inj same).symm
    simp only [beq_iff_eq, here, elsewhere, if_false, Nat.zero_add]

/-- Every member is placed by the number of members of its cluster before it. -/
theorem getElem?_placeMembers (targets : List (String × Target α)) (size : String → Nat)
    (slots : List (String × Nat)) (nodes : List (Node α)) (index : Nat) :
    (placeMembers targets size slots nodes)[index]? =
      nodes[index]?.map (placedAt targets size fun id =>
        (slots.lookup id).getD 0 + slotAt nodes id index) := by
  induction nodes generalizing slots index with
  | nil => rfl
  | cons node nodes induction =>
      cases own : node.cluster.bind fun id =>
          (targets.lookup id).map fun target => (id, target) with
      | none =>
          simp only [placeMembers, own]
          cases index with
          | zero => simp only [List.getElem?_cons_zero, Option.map_some, placedAt, own]
          | succ index =>
              rw [List.getElem?_cons_succ, List.getElem?_cons_succ, induction]
              congr 1
              apply placedAt_congr
              intro id target found
              have other : ¬ (node.cluster == some id) = true := by
                intro same
                simp [beq_iff_eq.mp same, found] at own
              rw [slotAt_cons, if_neg other, Nat.zero_add]
      | some entry =>
          obtain ⟨own_id, own_target⟩ := entry
          simp only [placeMembers, own]
          cases index with
          | zero =>
              simp only [List.getElem?_cons_zero, Option.map_some, placedAt, own]
              rfl
          | succ index =>
              obtain ⟨id, member, entry_eq⟩ := Option.bind_eq_some_iff.mp own
              obtain ⟨target, found, pair_eq⟩ := Option.map_eq_some_iff.mp entry_eq
              cases pair_eq
              rw [List.getElem?_cons_succ, List.getElem?_cons_succ, induction]
              congr 1
              apply placedAt_congr
              exact fun id _ _ => slot_after_member member slots nodes id index

end Layout
end ClusterDiagram
