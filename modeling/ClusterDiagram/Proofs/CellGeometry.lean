import ClusterDiagram.Proofs.OutlineTree
import ClusterDiagram.Proofs.PackedLayout

/-!
# Members and their cells

The slots of a cluster keep away from the borders of its cell, and different slots lie a step apart.
So every cluster of a layout has a home inside its cell, and different homes do not touch.
-/

namespace ClusterDiagram
namespace Layout

open HeldNumbers Outline

/-! ## Slots -/

/-- A slot keeps away from both borders of a cell that is wide enough for its row. -/
theorem slot_within {slot count units : ℕ} (start : ℕ) (within : slot < count)
    (room : (count - 1) * Merge.memberStep + 72 + 120 ≤ units) :
    (start : ℚ) + 96 ≤ start + units / 2 + slotShift slot count ∧
      (start : ℚ) + units / 2 + slotShift slot count + 96 ≤ start + units := by
  obtain ⟨low, high⟩ := abs_le.mp (abs_slotShift_le within)
  have room_cast : (((count - 1) * Merge.memberStep + 72 + 120 : ℕ) : ℚ) ≤ units :=
    Nat.cast_le.mpr room
  rw [Nat.cast_add, Nat.cast_add, Nat.cast_ofNat, Nat.cast_ofNat] at room_cast
  constructor <;> linarith

theorem slotShift_sub (slot other count : ℕ) :
    slotShift slot count - slotShift other count =
      ((slot : ℚ) - other) * (Merge.memberStep : ℕ) := by
  rw [slotShift, slotShift]
  ring

/-- Different slots of a row lie a step apart. -/
theorem step_le_abs_sub {slot other : ℕ} (apart : slot ≠ other) (count : ℕ) :
    ((Merge.memberStep : ℕ) : ℚ) ≤ |slotShift slot count - slotShift other count| := by
  have step : (0 : ℚ) ≤ (Merge.memberStep : ℕ) := Nat.cast_nonneg _
  have distance : (1 : ℚ) ≤ |(slot : ℚ) - other| := by
    have whole : 1 ≤ |(slot : ℤ) - other| :=
      Int.one_le_abs (sub_ne_zero.mpr (Nat.cast_injective.ne apart))
    exact_mod_cast whole
  rw [slotShift_sub, abs_mul, abs_of_nonneg step]
  exact le_mul_of_one_le_left step distance

namespace Cells

variable (cells : Cells) (id : String)

/-- Different members of a cluster lie a step apart. -/
theorem spots_apart {size slot other : ℕ} (apart : slot ≠ other) :
    ((Merge.memberStep : ℕ) : ℚ) ≤ |cells.spotX id size slot - cells.spotX id size other| ∨
      ((Merge.memberStep : ℕ) : ℚ) ≤ |cells.spotY id size slot - cells.spotY id size other| := by
  simp only [spotX, spotY, add_sub_add_left_eq_sub]
  by_cases same : slot % (packShape size).1 = other % (packShape size).1
  · right
    apply step_le_abs_sub
    intro same_row
    apply apart
    rw [← Nat.div_add_mod slot (packShape size).1, ← Nat.div_add_mod other (packShape size).1, same,
      same_row]
  · exact Or.inl (step_le_abs_sub same _)

/-- The part of a cell that its cluster may take. -/
def home : Region where
  left := cells.left id
  top := cells.top id
  right := cells.left id + cells.width - 52
  bottom := cells.top id + cells.height - 52

/-- Different homes do not touch. -/
theorem homes_apart {cells : Cells} {ids : List String} {bound : ℕ}
    (separate : cells.Separate ids bound) {id other : String} (id_mem : id ∈ ids)
    (other_mem : other ∈ ids) (different : id ≠ other) {first second : Region}
    (first_within : first.Within (cells.home id))
    (second_within : second.Within (cells.home other)) :
    first.right < second.left ∨ second.right < first.left ∨ first.bottom < second.top ∨
      second.bottom < first.top := by
  obtain ⟨left, top, right, bottom⟩ := first_within
  obtain ⟨left', top', right', bottom'⟩ := second_within
  simp only [home] at left top right bottom left' top' right' bottom'
  rcases separate.apart id id_mem other other_mem different with before | after | above | below
  · have := (Nat.cast_le (α := ℚ)).mpr before
    push_cast at this
    exact Or.inl (by linarith)
  · have := (Nat.cast_le (α := ℚ)).mpr after
    push_cast at this
    exact Or.inr (Or.inl (by linarith))
  · have := (Nat.cast_le (α := ℚ)).mpr above
    push_cast at this
    exact Or.inr (Or.inr (Or.inl (by linarith)))
  · have := (Nat.cast_le (α := ℚ)).mpr below
    push_cast at this
    exact Or.inr (Or.inr (Or.inr (by linarith)))

end Cells

/-! ## Clusters and members at home -/

variable {α : Type} [Scalar α] [HeldNumbers α] {cells : Cells} {clusters : List (Cluster α)}
  {nodes : List (Node α)}

theorem least_le_extent {empty least : ℕ} (count members : ℕ) (small : least ≤ empty) :
    least ≤ extent empty least count members 0 := by
  rw [extent]
  split
  · exact small.trans (Nat.le_add_right _ _)
  · exact (Nat.le_max_left _ _).trans (Nat.le_add_right _ _)

/-- A cell has room for an empty cluster. -/
theorem Packed.emptyRegion_within (packed : Packed cells clusters nodes) {id : String}
    (id_mem : id ∈ clusters.map (·.id)) :
    (emptyRegion (cells.left id) (cells.top id)).Within (cells.home id) := by
  have wide := (Nat.add_le_add_right (least_le_extent _ _ (by decide)) 120).trans
    (packed.wide id id_mem)
  have high := (Nat.add_le_add_right (least_le_extent _ _ (by decide)) 120).trans
    (packed.high id id_mem)
  have wide_cast : (240 : ℚ) ≤ cells.width := by exact_mod_cast wide
  have high_cast : (200 : ℚ) ≤ cells.height := by exact_mod_cast high
  constructor <;>
    simp only [emptyRegion, Cells.home, Placement.emptyWidth, Placement.emptyHeight] <;>
    norm_num <;> linarith

theorem Packed.le_bound (packed : Packed cells clusters nodes) (filled : clusters ≠ []) {bound : ℕ}
    (separate : cells.Separate (clusters.map (·.id)) bound) : 180 ≤ bound := by
  obtain ⟨cluster, cluster_mem⟩ := List.exists_mem_of_ne_nil _ filled
  have id_mem : cluster.id ∈ clusters.map (·.id) := List.mem_map_of_mem cluster_mem
  have wide := (Nat.add_le_add_right (least_le_extent _ _ (by decide)) 120).trans
    (packed.wide cluster.id id_mem)
  have within := (separate.within cluster.id id_mem).1
  omega

/-- Whether a node lies at a slot of a cluster. -/
def AtSlot (cells : Cells) (id : String) (size slot : ℕ) (node : Node α) : Prop :=
  Holds node.x (cells.spotX id size slot) ∧ Holds node.y (cells.spotY id size slot)

theorem Packed.exists_atSlot (packed : Packed cells clusters nodes) {id : String}
    (id_mem : id ∈ clusters.map (·.id)) {node : Node α} (node_mem : node ∈ nodes)
    (member : node.cluster = some id) :
    ∃ slot < (membersOf nodes id).length,
      AtSlot cells id (membersOf nodes id).length slot node := by
  obtain ⟨index, within, rfl⟩ := List.mem_iff_getElem.mp node_mem
  have node_at := List.getElem?_eq_getElem within
  exact ⟨_, slotAt_lt_length node_at member, packed.members index _ node_at id id_mem member⟩

/-- A member lies well inside its cell. -/
theorem Packed.member_within (packed : Packed cells clusters nodes) {id : String}
    (id_mem : id ∈ clusters.map (·.id)) {node : Node α} (node_mem : node ∈ nodes)
    (member : node.cluster = some id) :
    ∃ x y, Holds node.x x ∧ Holds node.y y ∧ IsHalf x ∧ IsHalf y ∧
      (cells.left id : ℚ) + 96 ≤ x ∧ x + 96 ≤ cells.left id + cells.width ∧
      (cells.top id : ℚ) + 96 ≤ y ∧ y + 96 ≤ cells.top id + cells.height := by
  obtain ⟨slot, slot_lt, x_held, y_held⟩ := packed.exists_atSlot id_mem node_mem member
  have filled : (membersOf nodes id).length ≠ 0 := by omega
  have roomX := (Nat.add_le_add_right (slots_le_extent _ 120 (packShape _).1 0 filled) 120).trans
    (packed.wide id id_mem)
  have roomY := (Nat.add_le_add_right (slots_le_extent _ 80 (packShape _).2 0 filled) 120).trans
    (packed.high id id_mem)
  obtain ⟨x_low, x_high⟩ := slot_within (cells.left id) (slot_mod_lt _ _) roomX
  obtain ⟨y_low, y_high⟩ := slot_within (cells.top id) (slot_div_lt slot_lt) roomY
  exact ⟨_, _, x_held, y_held,
    ((isHalf_natCast _).add (isHalf_half _)).add (isHalf_slotShift _ _),
    ((isHalf_natCast _).add (isHalf_half _)).add (isHalf_slotShift _ _),
    x_low, x_high, y_low, y_high⟩

/-- After a layout everything is at home. -/
theorem Packed.settled (packed : Packed cells clusters nodes) (ids : (clusters.map (·.id)).Nodup)
    {bound : ℕ} (separate : cells.Separate (clusters.map (·.id)) bound) :
    Settled bound cells.home clusters nodes where
  ids := ids
  anchored := by
    intro cluster cluster_mem
    obtain ⟨x, y, x_eq, y_eq, x_held, y_held⟩ := packed.anchored cluster cluster_mem
    exact ⟨x, y, _, _, x_eq, y_eq, x_held, y_held,
      packed.emptyRegion_within (List.mem_map_of_mem cluster_mem)⟩
  members := by
    intro node node_mem id id_mem member
    obtain ⟨x, y, x_held, y_held, x_half, y_half, x_low, x_high, y_low, y_high⟩ :=
      packed.member_within id_mem node_mem member
    refine ⟨⟨⟨x, x_held, x_half⟩, y, y_held, y_half⟩, ?_⟩
    rw [squareOf, number_eq x_held, number_eq y_held]
    constructor <;> simp only [Region.around, Region.grow, Cells.home, memberExtent, padding] <;>
      norm_num <;> linarith
  homes := by
    intro id id_mem
    obtain ⟨wide, high⟩ := separate.within id id_mem
    have wide_cast := (Nat.cast_le (α := ℚ)).mpr wide
    have high_cast := (Nat.cast_le (α := ℚ)).mpr high
    push_cast at wide_cast high_cast
    constructor <;> simp only [field, Region.grow, Cells.home] <;> norm_num <;> linarith

/-- A layout all of whose numbers are held: clusters and members lie in cells of their own, which
are as large as the largest cluster needs, and the grid leaves room for the outlines. -/
structure Exact (cells : Cells) (bound : ℕ) (clusters : List (Cluster α)) (nodes : List (Node α)) :
    Prop where
  /-- Everything lies in its cell. -/
  packed : Packed cells clusters nodes
  /-- The cells lie apart and within a bound. -/
  separate : cells.Separate (clusters.map (·.id)) bound
  /-- The width of the widest cluster, with the spacing. -/
  width_eq : cells.width = cellExtent clusters (widthOf clusters nodes)
  /-- The height of the highest cluster, with the spacing. -/
  height_eq : cells.height = cellExtent clusters (heightOf clusters nodes)
  /-- What lies around the grid can be held. -/
  fits : Fits α (bound + 2 * (padding * (clusters.length + 1) : ℕ))

end Layout
end ClusterDiagram
