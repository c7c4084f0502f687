import ClusterDiagram.Proofs.GridCells
import ClusterDiagram.Proofs.HeldNumbers
import ClusterDiagram.Proofs.Unplaced

/-!
# The grid in numbers

A grid begins at whole units, and its cells have whole extents, so that everything a layout places
is at whole or half units: a cluster at the corner of its cell, and a member at its slot around the
centre of the cell. A layout computes these numbers exactly as long as they can be held.
-/

namespace ClusterDiagram
namespace Layout

open HeldNumbers

variable {α : Type} [Scalar α] [HeldNumbers α]

/-! ## Extents -/

/-- The extent of a cluster along an axis. `empty` is that of a cluster without members, `least`
that of one with few, and `count` is the number of its slots along the axis. -/
def extent (empty least count members depth : ℕ) : ℕ :=
  (if members = 0 then empty else Nat.max least ((count - 1) * Merge.memberStep + 36 + 36)) +
    2 * 12 * depth

section Numbers

omit [Scalar α] [HeldNumbers α]

/-- The width of a cluster. -/
def widthOf (clusters : List (Cluster α)) (nodes : List (Node α)) (id : String) : ℕ :=
  extent Placement.emptyWidth 120 (packShape (membersOf nodes id).length).1
    (membersOf nodes id).length (ClusterTree.depth (ClusterTree.parents clusters) id)

/-- The height of a cluster. -/
def heightOf (clusters : List (Cluster α)) (nodes : List (Node α)) (id : String) : ℕ :=
  extent Placement.emptyHeight 80 (packShape (membersOf nodes id).length).2
    (membersOf nodes id).length (ClusterTree.depth (ClusterTree.parents clusters) id)

/-- The extent of a cell that has room for every one of some clusters. -/
def cellExtent (clusters : List (Cluster α)) (extentOf : String → ℕ) : ℕ :=
  (clusters.map fun cluster => extentOf cluster.id).foldr max 0 + 120

theorem le_foldr_max {numbers : List ℕ} {number : ℕ} (number_mem : number ∈ numbers) :
    number ≤ numbers.foldr max 0 := by
  induction numbers with
  | nil => cases number_mem
  | cons first numbers induction =>
      rw [List.foldr_cons]
      rcases List.mem_cons.mp number_mem with rfl | rest_mem
      · exact Nat.le_max_left _ _
      · exact (induction rest_mem).trans (Nat.le_max_right _ _)

theorem extent_le_cellExtent {clusters : List (Cluster α)} (extentOf : String → ℕ)
    {id : String} (id_mem : id ∈ clusters.map (·.id)) :
    extentOf id + 120 ≤ cellExtent clusters extentOf := by
  obtain ⟨cluster, cluster_mem, rfl⟩ := List.mem_map.mp id_mem
  have extent_mem : extentOf cluster.id ∈ clusters.map fun cluster => extentOf cluster.id :=
    List.mem_map.mpr ⟨cluster, cluster_mem, rfl⟩
  exact Nat.add_le_add_right (le_foldr_max extent_mem) 120

/-- Cells are as large wherever anything lies. -/
theorem cellExtents_of_unplaced_eq {clusters others : List (Cluster α)}
    {nodes moved : List (Node α)}
    (clusters_eq : others.map Cluster.unplaced = clusters.map Cluster.unplaced)
    (nodes_eq : moved.map Node.unplaced = nodes.map Node.unplaced) :
    cellExtent others (widthOf others moved) = cellExtent clusters (widthOf clusters nodes) ∧
      cellExtent others (heightOf others moved) = cellExtent clusters (heightOf clusters nodes) := by
  have ids_eq : others.map (·.id) = clusters.map (·.id) := by
    rw [← Cluster.map_id_unplaced, clusters_eq, Cluster.map_id_unplaced]
  have width_eq : widthOf others moved = widthOf clusters nodes := by
    funext id
    rw [widthOf, widthOf, length_membersOf_of_unplaced_eq nodes_eq,
      parents_of_unplaced_eq clusters_eq]
  have height_eq : heightOf others moved = heightOf clusters nodes := by
    funext id
    rw [heightOf, heightOf, length_membersOf_of_unplaced_eq nodes_eq,
      parents_of_unplaced_eq clusters_eq]
  have cell_eq (extentOf : String → ℕ) :
      cellExtent others extentOf = cellExtent clusters extentOf := by
    have extents := congrArg (List.map extentOf) ids_eq
    rw [List.map_map, List.map_map] at extents
    exact congrArg (·.foldr max 0 + 120) extents
  rw [width_eq, height_eq]
  exact ⟨cell_eq _, cell_eq _⟩

end Numbers

theorem holds_foldl_max {β : Type} {f : β → α} {g : β → ℕ} {items : List β}
    (held : ∀ item ∈ items, Holds (f item) (g item : ℚ)) {start : α} {least : ℕ}
    (start_held : Holds start (least : ℚ)) :
    Holds ((items.map f).foldl Scalar.max start)
      ((max least ((items.map g).foldr max 0) : ℕ) : ℚ) := by
  induction items generalizing start least with
  | nil => simpa using start_held
  | cons item items induction =>
      rw [List.forall_mem_cons] at held
      have step := holds_max start_held held.1
      rw [← Nat.cast_max] at step
      have rest := induction held.2 step
      rw [Nat.max_assoc] at rest
      exact rest

/-- The greatest of some scalars that hold natural numbers. -/
theorem holds_greatest {β : Type} {f : β → α} {g : β → ℕ} {items : List β} (filled : items ≠ [])
    (held : ∀ item ∈ items, Holds (f item) (g item : ℚ)) :
    Holds (greatest (items.map f)) (((items.map g).foldr max 0 : ℕ) : ℚ) := by
  cases items with
  | nil => exact absurd rfl filled
  | cons item items =>
      rw [List.forall_mem_cons] at held
      exact holds_foldl_max held.2 held.1

section Bounds

variable {bound : ℚ} (fits : Fits α bound)

include fits

theorem holds_natCast_add {first second : ℕ} (within : ((first + second : ℕ) : ℚ) ≤ bound) :
    Holds ((first : α) + (second : α)) ((first + second : ℕ) : ℚ) := by
  have first_le : (first : ℚ) ≤ bound :=
    (Nat.cast_le.mpr (Nat.le_add_right first second)).trans within
  have second_le : (second : ℚ) ≤ bound :=
    (Nat.cast_le.mpr (Nat.le_add_left second first)).trans within
  rw [Nat.cast_add] at within ⊢
  apply add (fits.natCast first_le) (fits.natCast second_le)
  apply fits _ ((isHalf_natCast first).add (isHalf_natCast second))
  rwa [abs_of_nonneg (by positivity)]

theorem holds_footprint (cluster : Cluster α) (index columns depth : ℕ) {members : List (Node α)}
    {width height : ℕ}
    (width_eq : extent Placement.emptyWidth 120 (packShape members.length).1 members.length depth =
      width)
    (height_eq : extent Placement.emptyHeight 80 (packShape members.length).2 members.length depth =
      height)
    (wide : (width : ℚ) ≤ bound) (high : (height : ℚ) ≤ bound) :
    Holds (footprint cluster index members columns depth).w (width : ℚ) ∧
      Holds (footprint cluster index members columns depth).h (height : ℚ) := by
  subst width_eq height_eq
  rw [footprint]
  split
  · rename_i empty
    have none : members.length = 0 := List.isEmpty_iff_length_eq_zero.mp empty
    rw [extent, if_pos none] at wide high
    rw [extent, extent, if_pos none, if_pos none]
    exact ⟨holds_natCast_add fits wide, holds_natCast_add fits high⟩
  · rename_i filled
    have some : members.length ≠ 0 := fun none => filled (List.isEmpty_iff_length_eq_zero.mpr none)
    rw [extent, if_neg some] at wide high
    rw [extent, extent, if_neg some, if_neg some]
    exact ⟨holds_natCast_add fits wide, holds_natCast_add fits high⟩

theorem holds_greatest_add {β : Type} {f : β → α} {g : β → ℕ} {items : List β}
    (filled : items ≠ []) (held : ∀ item ∈ items, Holds (f item) (g item : ℚ))
    (within : (((items.map g).foldr max 0 + 120 : ℕ) : ℚ) ≤ bound) :
    Holds (greatest (items.map f) + ((120 : ℕ) : α))
      (((items.map g).foldr max 0 + 120 : ℕ) : ℚ) := by
  have space_le : ((120 : ℕ) : ℚ) ≤ bound :=
    (Nat.cast_le.mpr (Nat.le_add_left 120 _)).trans within
  rw [Nat.cast_add] at within ⊢
  apply add (holds_greatest filled held) (fits.natCast space_le)
  apply fits _ ((isHalf_natCast _).add (isHalf_natCast _))
  rwa [abs_of_nonneg (by positivity)]

/-- The extents of the cells. -/
theorem holds_cellExtent {clusters : List (Cluster α)} (ids : (clusters.map (·.id)).Nodup)
    (filled : clusters ≠ []) (nodes : List (Node α))
    (wide : (cellExtent clusters (widthOf clusters nodes) : ℚ) ≤ bound)
    (high : (cellExtent clusters (heightOf clusters nodes) : ℚ) ≤ bound) :
    Holds (greatest ((footprints clusters nodes).map (·.2.w)) + ((120 : ℕ) : α))
        (cellExtent clusters (widthOf clusters nodes) : ℚ) ∧
      Holds (greatest ((footprints clusters nodes).map (·.2.h)) + ((120 : ℕ) : α))
        (cellExtent clusters (heightOf clusters nodes) : ℚ) := by
  obtain ⟨entries, -⟩ := footprints_eq ids nodes
  have items_filled : clusters.zipIdx ≠ [] := by simpa using filled
  have item_held : ∀ entry ∈ clusters.zipIdx,
      Holds (footprintAt clusters nodes entry.2 entry.1).w
          (widthOf clusters nodes entry.1.id : ℚ) ∧
        Holds (footprintAt clusters nodes entry.2 entry.1).h
          (heightOf clusters nodes entry.1.id : ℚ) := by
    intro entry entry_mem
    have id_mem : entry.1.id ∈ clusters.map (·.id) :=
      List.mem_map_of_mem (List.fst_mem_of_mem_zipIdx entry_mem)
    apply holds_footprint fits _ _ _ _ rfl rfl
    · refine (Nat.cast_le.mpr ?_).trans wide
      exact (Nat.le_add_right _ _).trans (extent_le_cellExtent (widthOf clusters nodes) id_mem)
    · refine (Nat.cast_le.mpr ?_).trans high
      exact (Nat.le_add_right _ _).trans (extent_le_cellExtent (heightOf clusters nodes) id_mem)
  have numbers_eq (extentOf : String → ℕ) :
      (clusters.zipIdx.map fun entry => extentOf entry.1.id) =
        clusters.map fun cluster => extentOf cluster.id :=
    map_zipIdx_fst (fun cluster => extentOf cluster.id) clusters
  rw [entries, List.map_map, List.map_map]
  rw [cellExtent, ← numbers_eq] at wide high
  rw [cellExtent, cellExtent, ← numbers_eq, ← numbers_eq]
  exact ⟨holds_greatest_add fits items_filled (fun entry mem => (item_held entry mem).1) wide,
    holds_greatest_add fits items_filled (fun entry mem => (item_held entry mem).2) high⟩

end Bounds

/-! ## Slots -/

/-- How far a slot of a row lies from the middle of the row. -/
def slotShift (slot count : ℕ) : ℚ :=
  ((slot : ℚ) - ((count - 1 : ℕ) : ℚ) / 2) * (Merge.memberStep : ℕ)

theorem isHalf_slotShift (slot count : ℕ) : IsHalf (slotShift slot count) :=
  ((isHalf_natCast slot).sub (isHalf_half (count - 1))).mul_natCast _

theorem abs_middle_le {slot count : ℕ} (within : slot < count) :
    |(slot : ℚ) - ((count - 1 : ℕ) : ℚ) / 2| ≤ ((count - 1 : ℕ) : ℚ) / 2 := by
  have slot_le : (slot : ℚ) ≤ ((count - 1 : ℕ) : ℚ) := Nat.cast_le.mpr (by omega)
  have slot_ge : (0 : ℚ) ≤ slot := Nat.cast_nonneg slot
  rw [abs_le]
  constructor <;> linarith

/-- A slot is no further from the middle than the ends of the row are. -/
theorem abs_slotShift_le {slot count : ℕ} (within : slot < count) :
    |slotShift slot count| ≤ (((count - 1) * Merge.memberStep : ℕ) : ℚ) / 2 := by
  have step : (0 : ℚ) ≤ (Merge.memberStep : ℕ) := Nat.cast_nonneg _
  calc |slotShift slot count|
      = |(slot : ℚ) - ((count - 1 : ℕ) : ℚ) / 2| * (Merge.memberStep : ℕ) := by
        rw [slotShift, abs_mul, abs_of_nonneg step]
    _ ≤ ((count - 1 : ℕ) : ℚ) / 2 * (Merge.memberStep : ℕ) :=
        mul_le_mul_of_nonneg_right (abs_middle_le within) step
    _ = (((count - 1) * Merge.memberStep : ℕ) : ℚ) / 2 := by
        rw [Nat.cast_mul]
        ring

section Slots

variable {bound : ℚ} (fits : Fits α bound) {centre : α} {middle : ℚ}

include fits

theorem holds_slotOffset {slot count : ℕ} (within : slot < count)
    (row_le : (((count - 1) * Merge.memberStep + 120 : ℕ) : ℚ) ≤ bound) :
    Holds (slotOffset slot count : α) (slotShift slot count) := by
  have room : (count - 1 : ℕ) ≤ (count - 1) * Merge.memberStep :=
    Nat.le_mul_of_pos_right _ (by decide)
  have last_le : ((count - 1 : ℕ) : ℚ) ≤ bound :=
    (Nat.cast_le.mpr (room.trans (Nat.le_add_right _ 120))).trans row_le
  have slot_le : (slot : ℚ) ≤ bound := (Nat.cast_le.mpr (by omega)).trans last_le
  have step_le : ((Merge.memberStep : ℕ) : ℚ) ≤ bound :=
    (Nat.cast_le.mpr (Nat.le_add_left 120 _)).trans row_le
  have half := HeldNumbers.half (fits.natCast last_le)
    (fits _ (isHalf_natCast _) ((abs_of_nonneg (Nat.cast_nonneg _)).trans_le last_le))
  have middle_half : IsHalf ((slot : ℚ) - ((count - 1 : ℕ) : ℚ) / 2) :=
    (isHalf_natCast slot).sub (isHalf_half (count - 1))
  have middle_held : Held α ((slot : ℚ) - ((count - 1 : ℕ) : ℚ) / 2) := by
    apply fits _ middle_half
    have nonneg : (0 : ℚ) ≤ ((count - 1 : ℕ) : ℚ) := Nat.cast_nonneg _
    linarith [abs_middle_le within]
  refine mul (sub (fits.natCast slot_le) half middle_held) (fits.natCast step_le) middle_held ?_
  apply fits _ (isHalf_slotShift slot count)
  have nonneg : (0 : ℚ) ≤ (((count - 1) * Merge.memberStep : ℕ) : ℚ) := Nat.cast_nonneg _
  rw [Nat.cast_add] at row_le
  linarith [abs_slotShift_le within]

/-- A member of a group is placed at its slot around the centre of the cell. -/
theorem holds_slot (centre_held : Holds centre middle) (middle_half : IsHalf middle)
    {slot count : ℕ} (within : slot < count)
    (low : (((count - 1) * Merge.memberStep + 120 : ℕ) : ℚ) / 2 ≤ middle)
    (high : middle + (((count - 1) * Merge.memberStep + 120 : ℕ) : ℚ) / 2 ≤ bound) :
    Holds (centre + slotOffset slot count) (middle + slotShift slot count) := by
  have near := abs_le.mp (abs_slotShift_le within)
  have row_le : (((count - 1) * Merge.memberStep + 120 : ℕ) : ℚ) ≤ bound := by linarith
  apply add centre_held (holds_slotOffset fits within row_le)
  apply fits _ (middle_half.add (isHalf_slotShift slot count))
  rw [Nat.cast_add] at low high
  rw [abs_le]
  constructor <;> linarith

omit fits in
/-- A scalar that holds a number other than zero, whose distance to what can be held can be held
too. -/
def Movable (a : α) : Prop :=
  ∃ q : ℚ, q ≠ 0 ∧ Holds a q ∧ Held α q ∧
    ∀ p, IsHalf p → 0 ≤ p → Held α p → Held α (p - q)

/-- A single member is placed at the centre of the cell. -/
theorem holds_single {a : α} (movable : Movable a) (centre_held : Holds centre middle)
    (middle_half : IsHalf middle) (low : 0 ≤ middle) (high : middle ≤ bound) :
    Holds (a + (centre - (if Scalar.isZero (Scalar.sum [a] / ((1 : ℕ) : α)) then centre
      else Scalar.sum [a] / ((1 : ℕ) : α)))) middle := by
  obtain ⟨q, nonzero, a_held, q_held, distance_held⟩ := movable
  have middle_held := fits middle middle_half ((abs_of_nonneg low).trans_le high)
  have zero_held : Holds ((0 : ℕ) : α) ((0 : ℕ) : ℚ) :=
    fits.natCast (by rw [Nat.cast_zero]; exact low.trans high)
  have sum_held : Holds (Scalar.sum [a] / ((1 : ℕ) : α)) q := by
    refine whole ?_ q_held
    have sum := add zero_held a_held (by rwa [Nat.cast_zero, zero_add])
    rwa [Nat.cast_zero, zero_add] at sum
  have not_zero : Scalar.isZero (Scalar.sum [a] / ((1 : ℕ) : α)) = false := by
    rw [Scalar.isZero, ← Bool.not_eq_true, beq_iff sum_held zero_held, Nat.cast_zero]
    exact nonzero
  rw [not_zero, if_neg Bool.false_ne_true]
  have moved := sub centre_held sum_held (distance_held middle middle_half low middle_held)
  have placed := add a_held moved (by rwa [add_sub_cancel])
  rwa [add_sub_cancel] at placed

/-- The edge of a cell and its centre. -/
theorem holds_edge {size : α} {units start part : ℕ} (size_held : Holds size (units : ℚ))
    (positive : units ≠ 0) (within : ((start + (part + 1) * units : ℕ) : ℚ) ≤ bound) :
    Holds (((start : ℤ) : α) + (part : α) * size) ((start + part * units : ℕ) : ℚ) ∧
      Holds (((start : ℤ) : α) + (part : α) * size + size / ((2 : ℕ) : α))
        (((start + part * units : ℕ) : ℚ) + (units : ℚ) / 2) := by
  have held {count : ℕ} (le : count ≤ start + (part + 1) * units) :
      (count : ℚ) ≤ bound ∧ Held α (count : ℚ) := by
    have count_le := (Nat.cast_le.mpr le).trans within
    exact ⟨count_le,
      fits _ (isHalf_natCast count) ((abs_of_nonneg (Nat.cast_nonneg count)).trans_le count_le)⟩
  have part_le : part ≤ part * units := Nat.le_mul_of_pos_right _ (Nat.pos_of_ne_zero positive)
  rw [Nat.succ_mul] at held within
  obtain ⟨start_within, -⟩ := held (show start ≤ _ by omega)
  obtain ⟨part_within, part_held⟩ := held (show part ≤ _ by omega)
  have product := mul (fits.natCast part_within) size_held part_held (by
    rw [← Nat.cast_mul]
    exact (held (show part * units ≤ _ by omega)).2)
  have edge : Holds (((start : ℤ) : α) + (part : α) * size) ((start + part * units : ℕ) : ℚ) := by
    rw [intCast_natCast, Nat.cast_add, Nat.cast_mul]
    apply add (fits.natCast start_within) product
    rw [← Nat.cast_mul, ← Nat.cast_add]
    exact (held (by omega)).2
  refine ⟨edge, add edge (HeldNumbers.half size_held (held (show units ≤ _ by omega)).2) ?_⟩
  apply fits _ ((isHalf_natCast _).add (isHalf_half units))
  rw [abs_of_nonneg (by positivity)]
  have units_nonneg : (0 : ℚ) ≤ units := Nat.cast_nonneg units
  push_cast at within ⊢
  linarith

end Slots

end Layout
end ClusterDiagram
