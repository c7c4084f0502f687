import ClusterDiagram.Proofs.FirstReading
import ClusterDiagram.Proofs.GridNumbers

/-!
# Slots in turn

While there are no clusters, nodes fill two rows of slots from left to right, each slot being kept
clear of by all nodes but its own. When the slots are used up, the number of nodes decides.
-/

namespace ClusterDiagram

open HeldNumbers Layout

variable {α : Type} [Scalar α] [HeldNumbers α]

namespace Placement

/-! ## Scanning -/

/-- A row whose columns are accepted from a limit on. -/
theorem scanRow_of_limit {accept : ℕ → Bool} {count first limit : ℕ}
    (accepts : ∀ column, column < first + count → accept column = decide (limit ≤ column))
    (passed : first ≤ limit) :
    scanRow accept count first = if limit < first + count then some limit else none := by
  induction count generalizing first with
  | zero => rw [scanRow, if_neg (by omega)]
  | succ count induction =>
      rw [scanRow, accepts first (by omega)]
      by_cases reached : limit = first
      · rw [if_pos (by simp [reached]), if_pos (by omega), reached]
      · rw [if_neg (by simp; omega), induction (fun column within => accepts column (by omega))
          (by omega), Nat.succ_add_eq_add_succ]

/-- A grid that is filled up to some slot. -/
theorem scanGrid_of_filled {accept : ℕ → ℕ → Bool} {columns count first filled : ℕ}
    (accepts : ∀ row column, row < first + count → column < columns →
      accept row column = decide (filled ≤ row * columns + column))
    (passed : first * columns ≤ filled) :
    scanGrid accept columns count first =
      if filled < (first + count) * columns then some (filled / columns, filled % columns)
      else none := by
  induction count generalizing first with
  | zero => rw [scanGrid, if_neg (by rw [Nat.add_zero]; omega)]
  | succ count induction =>
      have row_accepts : ∀ column, column < 0 + columns →
          accept first column = decide (filled - first * columns ≤ column) := by
        intro column within
        rw [accepts first column (by omega) (by omega)]
        congr 1
        rw [eq_iff_iff]
        omega
      have row_eq := scanRow_of_limit row_accepts (Nat.zero_le _)
      rw [Nat.zero_add] at row_eq
      have next_row : (first + 1) * columns = first * columns + columns := Nat.succ_mul _ _
      rw [scanGrid, row_eq]
      by_cases inside : filled - first * columns < columns
      · have last_row : (first + 1) * columns ≤ (first + (count + 1)) * columns :=
          Nat.mul_le_mul_right columns (by omega)
        obtain ⟨row, column⟩ := (Nat.div_mod_unique (by omega)).mpr
          ⟨show filled - first * columns + columns * first = filled by
            rw [Nat.mul_comm columns]; omega, inside⟩
        rw [if_pos inside, if_pos (by omega), row, column]
      · rw [if_neg inside]
        dsimp only
        rw [induction (fun row column within => accepts row column (by omega)) (by omega),
          Nat.succ_add_eq_add_succ]

/-! ## Rectangles -/

/-- The numbers that the sides of a rectangle hold. -/
structure Sides (rect : Rect α) (left right top bottom : ℚ) : Prop where
  /-- The left edge. -/
  left : Holds rect.x left
  /-- The right edge. -/
  right : Holds (rect.x + rect.w) right
  /-- The top edge. -/
  top : Holds rect.y top
  /-- The bottom edge. -/
  bottom : Holds (rect.y + rect.h) bottom

/-- Rectangles touch or overlap when neither lies beside, above or below the other. -/
theorem overlaps_iff {first second : Rect α} {left right top bottom left' right' top' bottom' : ℚ}
    (sides : Sides first left right top bottom) (sides' : Sides second left' right' top' bottom') :
    first.overlaps second = true ↔
      left' ≤ right ∧ left ≤ right' ∧ top' ≤ bottom ∧ top ≤ bottom' := by
  simp only [Rect.overlaps, Bool.not_eq_true', Bool.or_eq_false_iff, decide_eq_false_iff_not,
    lt_iff sides.right sides'.left, lt_iff sides'.right sides.left, lt_iff sides.bottom sides'.top,
    lt_iff sides'.bottom sides.top, not_lt, and_assoc]

section Bounds

variable {bound : ℕ} (fits : Fits α (bound : ℚ))

include fits

theorem holds_natCast {count : ℕ} (within : count ≤ bound) : Holds (count : α) (count : ℚ) :=
  fits.natCast (Nat.cast_le.mpr within)

theorem holds_add {a b : α} {first second : ℕ} (first_held : Holds a (first : ℚ))
    (second_held : Holds b (second : ℚ)) (within : first + second ≤ bound) :
    Holds (a + b) ((first + second : ℕ) : ℚ) := by
  rw [Nat.cast_add]
  apply add first_held second_held
  rw [← Nat.cast_add]
  exact fits _ (isHalf_natCast _)
    ((abs_of_nonneg (Nat.cast_nonneg _)).trans_le (Nat.cast_le.mpr within))

theorem holds_sub {a b : α} {first second : ℕ} (first_held : Holds a (first : ℚ))
    (second_held : Holds b (second : ℚ)) (order : second ≤ first) (within : first ≤ bound) :
    Holds (a - b) ((first - second : ℕ) : ℚ) := by
  rw [Nat.cast_sub order]
  apply sub first_held second_held
  rw [← Nat.cast_sub order]
  exact fits _ (isHalf_natCast _)
    ((abs_of_nonneg (Nat.cast_nonneg _)).trans_le (Nat.cast_le.mpr ((Nat.sub_le _ _).trans within)))

end Bounds

/-! ## Slots -/

/-- The place of a slot when the slots are counted row by row. -/
def slotPlace (columns index : ℕ) : ℕ × ℕ :=
  (80 + index % columns * 300, 60 + index / columns * 180)

/-- The place of a node when there are that many nodes before it and no clusters. -/
def placeOf (columns index : ℕ) : ℕ × ℕ :=
  if index < 2 * columns then slotPlace columns index else (100 + index * 20, 80 + index / 6 * 40)

/-- Two slots at one place are the same. -/
theorem eq_of_slot_eq (columns : ℕ) {index other : ℕ}
    (column_eq : index % columns = other % columns)
    (row_eq : index / columns = other / columns) : index = other := by
  rw [← Nat.div_add_mod index columns, row_eq, column_eq, Nat.div_add_mod]

theorem slot_div_mod (row : ℕ) {columns column : ℕ} (within : column < columns) :
    (row * columns + column) / columns = row ∧ (row * columns + column) % columns = column :=
  (Nat.div_mod_unique (Nat.zero_lt_of_lt within)).mpr
    ⟨by rw [Nat.add_comm, Nat.mul_comm], within⟩

/-- Whether coordinates hold the numbers of a place. -/
def LiesAt (x y : α) (place : ℕ × ℕ) : Prop :=
  Holds x (place.1 : ℚ) ∧ Holds y (place.2 : ℚ)

/-- Nodes that lie where they are put one after the other. -/
def InTurn (columns : ℕ) (nodes : List (Node α)) : Prop :=
  ∀ index node, nodes[index]? = some node → LiesAt node.x node.y (placeOf columns index)

/-- The rectangle that has to be free for a node at a corner. -/
def slotRect (corner : Point α) : Rect α where
  x := corner.x - (slotMargin : α)
  y := corner.y - (slotMargin : α)
  w := (emptyWidth : α) + ((slotMargin * 2 : ℕ) : α)
  h := (emptyHeight : α) + ((slotMargin * 2 : ℕ) : α)

omit [HeldNumbers α] in
theorem isFree_iff (nodes : List (Node α)) (corner : Point α) :
    isFree (emptyWidth : α) (emptyHeight : α) (occupied nodes []) corner = true ↔
      ∀ node ∈ nodes, ¬ (slotRect corner).overlaps (nodeRect node) = true := by
  simp [isFree, occupied, slotRect]

section Bounds

variable {bound : ℕ} (fits : Fits α (bound : ℚ)) {x y : ℕ}

include fits

/-- The sides of a rectangle that begins a margin before a place. -/
theorem sides_of_liesAt {a b w h : α} {margin width height : ℕ} (placed : LiesAt a b (x, y))
    (w_held : Holds w (width : ℚ)) (h_held : Holds h (height : ℚ)) (x_margin : margin ≤ x)
    (y_margin : margin ≤ y) (x_within : x + width ≤ bound) (y_within : y + height ≤ bound) :
    Sides ⟨a - (margin : α), b - (margin : α), w, h⟩ ((x - margin : ℕ) : ℚ)
      ((x - margin + width : ℕ) : ℚ) ((y - margin : ℕ) : ℚ) ((y - margin + height : ℕ) : ℚ) := by
  have margin_held := holds_natCast fits (show margin ≤ bound by omega)
  have left := holds_sub fits placed.1 margin_held x_margin ((Nat.le_add_right x _).trans x_within)
  have top := holds_sub fits placed.2 margin_held y_margin ((Nat.le_add_right y _).trans y_within)
  exact ⟨left, holds_add fits left w_held (by omega), top, holds_add fits top h_held (by omega)⟩

/-- A node keeps a slot from being free when it is near enough to its corner. -/
theorem slotRect_overlaps_iff {corner : Point α} {node : Node α} {x' y' : ℕ}
    (corner_placed : LiesAt corner.x corner.y (x, y)) (placed : LiesAt node.x node.y (x', y'))
    (margins : 24 ≤ x ∧ 24 ≤ y ∧ 36 ≤ x' ∧ 36 ≤ y')
    (within : x + 228 ≤ bound ∧ y + 148 ≤ bound ∧ x' + 72 ≤ bound ∧ y' + 72 ≤ bound) :
    (slotRect corner).overlaps (nodeRect node) = true ↔
      x' ≤ x + 240 ∧ x ≤ x' + 60 ∧ y' ≤ y + 160 ∧ y ≤ y' + 60 := by
  obtain ⟨x_margin, y_margin, x_margin', y_margin'⟩ := margins
  obtain ⟨x_within, y_within, x_within', y_within'⟩ := within
  have held {count : ℕ} (small : count ≤ 180) : Holds (count : α) (count : ℚ) :=
    holds_natCast fits (by omega)
  have margin := held (show slotMargin * 2 ≤ 180 by decide)
  have extent := held (show nodeClearance * 2 ≤ 180 by decide)
  have width : Holds ((emptyWidth : α) + ((slotMargin * 2 : ℕ) : α)) ((180 + 48 : ℕ) : ℚ) :=
    holds_add fits (held (show emptyWidth ≤ 180 by decide)) margin (by omega)
  have height : Holds ((emptyHeight : α) + ((slotMargin * 2 : ℕ) : α)) ((100 + 48 : ℕ) : ℚ) :=
    holds_add fits (held (show emptyHeight ≤ 180 by decide)) margin (by omega)
  have slot : Sides (slotRect corner) _ _ _ _ :=
    sides_of_liesAt fits corner_placed width height x_margin y_margin x_within y_within
  have taken : Sides (nodeRect node) _ _ _ _ :=
    sides_of_liesAt fits placed extent extent x_margin' y_margin' x_within' y_within'
  rw [overlaps_iff slot taken]
  simp only [Nat.cast_le, slotMargin, nodeClearance]
  omega

end Bounds

/-- Whether all whole units that are met when a number of nodes are placed on a canvas can be
held. -/
structure Reaches (canvasWidth : α) (count bound : ℕ) : Prop where
  /-- Whole and half units up to the bound can be held. -/
  fits : Fits α bound
  /-- The bound lies beyond the slots that are always there. -/
  slots : 80 + 300 * 2 ≤ bound
  /-- The bound lies beyond every column. -/
  columns : ∀ columns,
    Scalar.floorQuotient canvasWidth (cellSize (emptyWidth : α) (emptyHeight : α)).1 = .ok columns →
      80 + 300 * columns.toNat ≤ bound
  /-- The bound lies beyond every place that is used when no slot is free. -/
  overflow : 100 + count * 20 ≤ bound

/-- The number of columns that a canvas has. -/
def HasColumns (canvasWidth : α) (columns : ℕ) : Prop :=
  ∃ whole,
    Scalar.floorQuotient canvasWidth (cellSize (emptyWidth : α) (emptyHeight : α)).1 = .ok whole ∧
      columns = Nat.max 2 whole.toNat

namespace Reaches

variable {canvasWidth : α} {count bound : ℕ} (reaches : Reaches canvasWidth count bound)

include reaches

theorem holds_cellSize : Holds (cellSize (emptyWidth : α) (emptyHeight : α)).1 ((300 : ℕ) : ℚ) ∧
    Holds (cellSize (emptyWidth : α) (emptyHeight : α)).2 ((180 : ℕ) : ℚ) := by
  have within {units : ℕ} (small : units ≤ 680) : (units : ℚ) ≤ bound :=
    Nat.cast_le.mpr (small.trans reaches.slots)
  have width := holds_max (reaches.fits.natCast (within (show 220 ≤ 680 by decide)))
    (holds_natCast_add reaches.fits (within (show emptyWidth + 120 ≤ 680 by decide)))
  have height := holds_max (reaches.fits.natCast (within (show 160 ≤ 680 by decide)))
    (holds_natCast_add reaches.fits (within (show emptyHeight + 80 ≤ 680 by decide)))
  rw [← Nat.cast_max] at width height
  exact ⟨width, height⟩

section Corners

variable {columns : ℕ} (wide : 80 + columns * 300 ≤ bound)

include wide

/-- The corner of a slot. -/
theorem liesAt_corner {row column : ℕ} (row_lt : row < 2) (column_lt : column < columns) :
    LiesAt (corner (cellSize (emptyWidth : α) (emptyHeight : α)) row column).x
      (corner (cellSize (emptyWidth : α) (emptyHeight : α)) row column).y
      (slotPlace columns (row * columns + column)) := by
  obtain ⟨width, height⟩ := reaches.holds_cellSize
  have low := reaches.slots
  have x_within : 80 + (column + 1) * 300 ≤ bound :=
    (Nat.add_le_add_left (Nat.mul_le_mul_right 300 column_lt) 80).trans wide
  have y_within : 60 + (row + 1) * 180 ≤ bound := by omega
  have x_held := (holds_edge reaches.fits width (by decide) (Nat.cast_le.mpr x_within)).1
  have y_held := (holds_edge reaches.fits height (by decide) (Nat.cast_le.mpr y_within)).1
  rw [intCast_natCast] at x_held y_held
  obtain ⟨row_eq, column_eq⟩ := slot_div_mod row column_lt
  rw [slotPlace, row_eq, column_eq]
  exact ⟨x_held, y_held⟩

/-- A node in a slot keeps that slot from being free and no other one. -/
theorem slotRect_overlaps_iff_eq {row column index : ℕ} (row_lt : row < 2)
    (column_lt : column < columns) (index_lt : index < 2 * columns) {node : Node α}
    (placed : LiesAt node.x node.y (slotPlace columns index)) :
    (slotRect (corner (cellSize (emptyWidth : α) (emptyHeight : α)) row column)).overlaps
      (nodeRect node) = true ↔ index = row * columns + column := by
  have corner_placed := reaches.liesAt_corner wide row_lt column_lt
  have low := reaches.slots
  have positive : 0 < columns := Nat.zero_lt_of_lt column_lt
  obtain ⟨row_eq, column_eq⟩ := slot_div_mod row column_lt
  have index_column := Nat.mod_lt index positive
  have index_row : index / columns < 2 := (Nat.div_lt_iff_lt_mul positive).mpr index_lt
  rw [slotPlace, row_eq, column_eq] at corner_placed
  rw [slotRect_overlaps_iff reaches.fits corner_placed placed (by omega) (by omega)]
  constructor
  · intro near
    apply eq_of_slot_eq columns
    · rw [column_eq]
      omega
    · rw [row_eq]
      omega
  · rintro rfl
    rw [row_eq, column_eq]
    omega

/-- A slot is free as long as there are too few nodes for it to be taken. -/
theorem isFree_corner_iff {row column : ℕ} (row_lt : row < 2) (column_lt : column < columns)
    {nodes : List (Node α)} (turn : InTurn columns nodes) :
    isFree (emptyWidth : α) (emptyHeight : α) (occupied nodes [])
        (corner (cellSize (emptyWidth : α) (emptyHeight : α)) row column) = true ↔
      nodes.length ≤ row * columns + column := by
  have slot_lt : row * columns + column < 2 * columns :=
    calc row * columns + column
      _ < row * columns + columns := Nat.add_lt_add_left column_lt _
      _ = (row + 1) * columns := (Nat.succ_mul row columns).symm
      _ ≤ 2 * columns := Nat.mul_le_mul_right columns row_lt
  rw [isFree_iff]
  constructor
  · intro clear
    by_contra filled
    have own_lt := not_le.mp filled
    have placed := turn _ _ (List.getElem?_eq_getElem own_lt)
    rw [placeOf, if_pos slot_lt] at placed
    exact clear _ (List.getElem_mem own_lt)
      ((reaches.slotRect_overlaps_iff_eq wide row_lt column_lt slot_lt placed).mpr rfl)
  · intro few node node_mem overlapping
    obtain ⟨index, index_lt, rfl⟩ := List.getElem_of_mem node_mem
    have before := index_lt.trans_le few
    have placed := turn _ _ (List.getElem?_eq_getElem index_lt)
    rw [placeOf, if_pos (before.trans slot_lt)] at placed
    exact before.ne
      ((reaches.slotRect_overlaps_iff_eq wide row_lt column_lt (before.trans slot_lt) placed).mp
        overlapping)

end Corners

/-- The numbers of the columns that a canvas has can be held. -/
theorem columns_le {columns : ℕ} (counted : HasColumns canvasWidth columns) :
    80 + columns * 300 ≤ bound := by
  obtain ⟨whole, whole_eq, rfl⟩ := counted
  have low := reaches.slots
  have far := reaches.columns whole whole_eq
  have choice : Nat.max 2 whole.toNat = 2 ∨ Nat.max 2 whole.toNat = whole.toNat := max_choice _ _
  rw [Nat.mul_comm]
  rcases choice with two | more
  · rw [two]
    exact low
  · rw [more]
    exact far

/-- A node that is placed without clusters takes its turn. -/
theorem liesAt_nodeSlot {nodes : List (Node α)} (few : nodes.length ≤ count) {columns : ℕ}
    (counted : HasColumns canvasWidth columns) (turn : InTurn columns nodes) {point : Point α}
    (done : nodeSlot nodes [] canvasWidth = .ok point) :
    LiesAt point.x point.y (placeOf columns nodes.length) := by
  have wide := reaches.columns_le counted
  obtain ⟨whole, whole_eq, rfl⟩ := counted
  obtain ⟨_, whole_eq', done⟩ := ok_of_bind done
  obtain rfl := Except.ok.inj (whole_eq.symm.trans whole_eq')
  have positive : 0 < Nat.max 2 whole.toNat := lt_max_of_lt_left Nat.two_pos
  have accepts (row column : ℕ) (row_lt : row < 0 + 2)
      (column_lt : column < Nat.max 2 whole.toNat) :=
    Bool.eq_iff_iff.mpr ((reaches.isFree_corner_iff wide (by omega) column_lt turn).trans
      decide_eq_true_iff.symm)
  dsimp only at done
  rw [List.length_nil, rows_of_no_clusters, scanGrid_of_filled accepts (by omega)] at done
  by_cases free : nodes.length < 2 * Nat.max 2 whole.toNat
  · rw [Nat.zero_add, if_pos free] at done
    obtain rfl := Except.ok.inj done
    have column_lt := Nat.mod_lt nodes.length positive
    have row_lt := (Nat.div_lt_iff_lt_mul positive).mpr free
    rw [placeOf, if_pos free]
    have placed := reaches.liesAt_corner wide row_lt column_lt
    rwa [Nat.div_add_mod'] at placed
  · rw [Nat.zero_add, if_neg free] at done
    obtain rfl := Except.ok.inj done
    have beyond := reaches.overflow
    rw [placeOf, if_neg free, Nat.zero_add]
    exact ⟨holds_natCast reaches.fits (by omega), holds_natCast reaches.fits (by omega)⟩

end Reaches

omit [HeldNumbers α] in
theorem hasColumns_of_nodeSlot {nodes : List (Node α)} {clusters : List (Cluster α)}
    {canvasWidth : α} {point : Point α}
    (done : nodeSlot nodes clusters canvasWidth = .ok point) :
    ∃ columns, HasColumns canvasWidth columns := by
  obtain ⟨whole, whole_eq, -⟩ := ok_of_bind done
  exact ⟨_, whole, whole_eq, rfl⟩

omit [HeldNumbers α] in
theorem HasColumns.unique {canvasWidth : α} {columns others : ℕ}
    (counted : HasColumns canvasWidth columns) (recounted : HasColumns canvasWidth others) :
    columns = others := by
  obtain ⟨whole, whole_eq, rfl⟩ := counted
  obtain ⟨whole', whole_eq', rfl⟩ := recounted
  rw [Except.ok.inj (whole_eq.symm.trans whole_eq')]

theorem InTurn.concat {columns : ℕ} {nodes : List (Node α)} {node : Node α}
    (turn : InTurn columns nodes) (placed : LiesAt node.x node.y (placeOf columns nodes.length)) :
    InTurn columns (nodes ++ [node]) := by
  intro index other at_index
  rw [List.getElem?_append] at at_index
  split at at_index
  · exact turn index other at_index
  · rename_i beyond
    obtain ⟨last, same⟩ := List.getElem?_eq_some_iff.mp at_index
    rw [List.length_singleton] at last
    obtain rfl : index = nodes.length := by omega
    rw [List.getElem_singleton] at same
    exact same ▸ placed

end Placement

namespace Prompt

open Placement

/-- A draft whose nodes, if there are any, have been placed one after the other, as long as there
are not too many entities. -/
def Draft.TakesTurns (canvasWidth : α) (count : ℕ) (draft : Draft α) : Prop :=
  draft.size ≤ count → draft.graph.nodes = [] ∨
    ∃ columns, HasColumns canvasWidth columns ∧ InTurn columns draft.graph.nodes

section Turns

variable {context : Context α} {count bound : ℕ} (nodes_unknown : context.nodes = [])
  (clusters_unknown : context.clusters = []) (reaches : Reaches context.canvasWidth count bound)

include nodes_unknown clusters_unknown reaches

theorem Draft.TakesTurns.addNode {draft after : Draft α} {label : String}
    {name cluster : Option String} {node : Node α}
    (turns : draft.TakesTurns context.canvasWidth count)
    (done : Draft.addNode context draft label name cluster none = .ok (node, after)) :
    after.TakesTurns context.canvasWidth count := by
  intro few
  have size_eq := size_of_addNode done
  have before := turns (by omega)
  have few_nodes : draft.graph.nodes.length ≤ count := by
    have part : draft.graph.nodes.length ≤ draft.size := Nat.le_add_left _ _
    omega
  simp only [Draft.addNode, giveTokenId, giveId, nodes_unknown, clusters_unknown,
    List.nil_append] at done
  split at done
  · cases done
  · rename_i point found
    cases done
    obtain ⟨columns, counted⟩ := hasColumns_of_nodeSlot found
    refine .inr ⟨columns, counted, ?_⟩
    have turn : InTurn columns draft.graph.nodes := by
      rcases before with none | ⟨others, recounted, turn⟩
      · rw [none]
        exact fun index node at_index => absurd at_index (by simp)
      · rwa [counted.unique recounted]
    exact turn.concat (reaches.liesAt_nodeSlot few_nodes counted turn found)

theorem Draft.TakesTurns.step {draft after : Draft α}
    (turns : draft.TakesTurns context.canvasWidth count) (step : Step context draft after) :
    after.TakesTurns context.canvasWidth count := by
  cases step with
  | cluster indent filled =>
      intro few
      apply turns
      simp only [size, addCluster, giveId, List.length_append, List.length_singleton] at few ⊢
      omega
  | node _ origin added =>
      rcases origin with rfl | ⟨known, known_mem, -⟩
      · exact turns.addNode nodes_unknown clusters_unknown reaches added
      · rw [nodes_unknown] at known_mem
        exact absurd known_mem List.not_mem_nil
  | edge => exact turns

end Turns

/-- A text that is read against nothing places its nodes one after the other. -/
theorem takesTurns_of_read {context : Context α} (nodes_unknown : context.nodes = [])
    (clusters_unknown : context.clusters = []) {text : String} {drawn next bound : ℕ}
    (reaches : Reaches context.canvasWidth (3 * text.length) bound) {graph : Graph α}
    (done : read context text drawn = .ok (graph, next)) :
    graph.nodes = [] ∨
      ∃ columns, HasColumns context.canvasWidth columns ∧ InTurn columns graph.nodes := by
  have few := length_of_read done
  obtain ⟨draft, grows, rfl⟩ := grows_of_read done
  have start : Draft.TakesTurns context.canvasWidth (3 * text.length) ({ drawn } : Draft α) :=
    fun _ => .inl rfl
  exact grows.keeps
    (fun step before => before.step nodes_unknown clusters_unknown reaches step) start few

end Prompt
end ClusterDiagram
