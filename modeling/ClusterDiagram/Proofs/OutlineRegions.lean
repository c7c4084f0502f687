import ClusterDiagram.Outline
import ClusterDiagram.Proofs.HeldNumbers

/-!
# Regions of outlines

As far as the numbers can be held, the outline of a cluster is the least region around the squares
of its members and the outlines of its children, grown by the padding.
-/

namespace ClusterDiagram
namespace Outline

open HeldNumbers

/-! ## Regions -/

/-- A rectangle of the plane given by its sides. -/
structure Region where
  /-- Left side. -/
  left : ℚ
  /-- Top side. -/
  top : ℚ
  /-- Right side. -/
  right : ℚ
  /-- Bottom side. -/
  bottom : ℚ

namespace Region

/-- Whether a region lies in another one, borders included. -/
structure Within (inner outer : Region) : Prop where
  left : outer.left ≤ inner.left
  top : outer.top ≤ inner.top
  right : inner.right ≤ outer.right
  bottom : inner.bottom ≤ outer.bottom

/-- Whether a point lies in a region, borders included. -/
structure Contains (region : Region) (x y : ℚ) : Prop where
  left : region.left ≤ x
  top : region.top ≤ y
  right : x ≤ region.right
  bottom : y ≤ region.bottom

/-- Whether the sides are in order and at half units. -/
structure Regular (region : Region) : Prop where
  left : IsHalf region.left
  top : IsHalf region.top
  right : IsHalf region.right
  bottom : IsHalf region.bottom
  wide : region.left ≤ region.right
  high : region.top ≤ region.bottom

/-- The region that reaches a given distance beyond every side. -/
def grow (region : Region) (distance : ℚ) : Region where
  left := region.left - distance
  top := region.top - distance
  right := region.right + distance
  bottom := region.bottom + distance

/-- The square around a point. -/
def around (x y distance : ℚ) : Region :=
  grow ⟨x, y, x, y⟩ distance

/-- The least region around two regions. -/
def hull (first second : Region) : Region where
  left := min first.left second.left
  top := min first.top second.top
  right := max first.right second.right
  bottom := max first.bottom second.bottom

theorem Within.refl (region : Region) : region.Within region :=
  ⟨le_refl _, le_refl _, le_refl _, le_refl _⟩

theorem Within.trans {inner middle outer : Region} (first : inner.Within middle)
    (second : middle.Within outer) : inner.Within outer :=
  ⟨second.left.trans first.left, second.top.trans first.top, first.right.trans second.right,
    first.bottom.trans second.bottom⟩

theorem Contains.mono {inner outer : Region} {x y : ℚ} (inside : inner.Contains x y)
    (within : inner.Within outer) : outer.Contains x y :=
  ⟨within.left.trans inside.left, within.top.trans inside.top, inside.right.trans within.right,
    inside.bottom.trans within.bottom⟩

theorem within_grow (region : Region) (distance : ℕ) : region.Within (region.grow distance) :=
  ⟨sub_le_self _ (Nat.cast_nonneg distance), sub_le_self _ (Nat.cast_nonneg distance),
    le_add_of_nonneg_right (Nat.cast_nonneg distance),
    le_add_of_nonneg_right (Nat.cast_nonneg distance)⟩

theorem Within.grow {inner outer : Region} (within : inner.Within outer) (distance : ℚ) :
    (inner.grow distance).Within (outer.grow distance) :=
  ⟨sub_le_sub_right within.left distance, sub_le_sub_right within.top distance,
    add_le_add_left within.right distance, add_le_add_left within.bottom distance⟩

theorem grow_within_iff {inner outer : Region} (distance : ℚ) :
    (inner.grow distance).Within outer ↔ inner.Within (outer.grow (-distance)) := by
  constructor
  · rintro ⟨left, top, right, bottom⟩
    simp only [Region.grow] at left top right bottom
    constructor <;> simp only [Region.grow] <;> linarith
  · rintro ⟨left, top, right, bottom⟩
    simp only [Region.grow] at left top right bottom
    constructor <;> simp only [Region.grow] <;> linarith

theorem within_hull_left (first second : Region) : first.Within (hull first second) :=
  ⟨min_le_left _ _, min_le_left _ _, le_max_left _ _, le_max_left _ _⟩

theorem within_hull_right (first second : Region) : second.Within (hull first second) :=
  ⟨min_le_right _ _, min_le_right _ _, le_max_right _ _, le_max_right _ _⟩

theorem hull_within {first second outer : Region} (first_within : first.Within outer)
    (second_within : second.Within outer) : (hull first second).Within outer :=
  ⟨le_min first_within.left second_within.left, le_min first_within.top second_within.top,
    max_le first_within.right second_within.right, max_le first_within.bottom second_within.bottom⟩

theorem Regular.hull {first second : Region} (regular : first.Regular)
    (regular' : second.Regular) : (hull first second).Regular where
  left := regular.left.min regular'.left
  top := regular.top.min regular'.top
  right := regular.right.max regular'.right
  bottom := regular.bottom.max regular'.bottom
  wide := (min_le_left _ _).trans (regular.wide.trans (le_max_left _ _))
  high := (min_le_left _ _).trans (regular.high.trans (le_max_left _ _))

theorem Regular.grow {region : Region} (regular : region.Regular) (distance : ℕ) :
    (region.grow distance).Regular where
  left := regular.left.sub (isHalf_natCast _)
  top := regular.top.sub (isHalf_natCast _)
  right := regular.right.add (isHalf_natCast _)
  bottom := regular.bottom.add (isHalf_natCast _)
  wide := (sub_le_self _ (Nat.cast_nonneg distance)).trans
    (regular.wide.trans (le_add_of_nonneg_right (Nat.cast_nonneg distance)))
  high := (sub_le_self _ (Nat.cast_nonneg distance)).trans
    (regular.high.trans (le_add_of_nonneg_right (Nat.cast_nonneg distance)))

/-- The least region around the regions met so far and one more. -/
def join (region : Option Region) (next : Region) : Option Region :=
  match region with
  | none => some next
  | some region => some (hull region next)

/-- The least region around some regions, if there are any. -/
def joinAll (regions : List Region) : Option Region :=
  regions.foldl join none

theorem joinAll_append_singleton (regions : List Region) (next : Region) :
    joinAll (regions ++ [next]) = join (joinAll regions) next := by
  rw [joinAll, List.foldl_append]
  rfl

theorem join_ne_none (region : Option Region) (next : Region) : join region next ≠ none := by
  cases region <;> exact Option.some_ne_none _

theorem joinAll_eq_none_iff (regions : List Region) : joinAll regions = none ↔ regions = [] := by
  induction regions using List.reverseRecOn with
  | nil => exact iff_of_true rfl rfl
  | append_singleton regions next =>
      rw [joinAll_append_singleton]
      exact iff_of_false (join_ne_none _ next) (List.append_ne_nil_of_right_ne_nil _ (by simp))

/-- The least region lies around each of the regions and in every region that does. -/
structure IsLeast (region : Region) (regions : List Region) : Prop where
  around : ∀ inner ∈ regions, inner.Within region
  least : ∀ outer : Region, (∀ inner ∈ regions, inner.Within outer) → region.Within outer
  regular : (∀ inner ∈ regions, inner.Regular) → region.Regular

theorem isLeast_of_joinAll {regions : List Region} {region : Region}
    (joined : joinAll regions = some region) : region.IsLeast regions := by
  induction regions using List.reverseRecOn generalizing region with
  | nil => cases joined
  | append_singleton regions next induction =>
      rw [joinAll_append_singleton] at joined
      cases before : joinAll regions with
      | none =>
          obtain rfl := (joinAll_eq_none_iff regions).mp before
          cases before ▸ joined
          exact ⟨by simpa using Within.refl next, fun outer inside => inside next (by simp),
            fun regular => regular next (by simp)⟩
      | some first =>
          have known := induction before
          rw [before] at joined
          cases joined
          have within_left := within_hull_left first next
          constructor
          · rw [List.forall_mem_append, List.forall_mem_singleton]
            exact ⟨fun inner inner_mem => (known.around inner inner_mem).trans within_left,
              within_hull_right first next⟩
          · intro outer inside
            rw [List.forall_mem_append, List.forall_mem_singleton] at inside
            exact hull_within (known.least outer inside.1) inside.2
          · intro regular
            rw [List.forall_mem_append, List.forall_mem_singleton] at regular
            exact (known.regular regular.1).hull regular.2

/-- Every side of the least region is attained. -/
theorem sides_of_joinAll {regions : List Region} {region : Region}
    (joined : joinAll regions = some region) (bound : ℚ) :
    (region.left ≤ bound ↔ ∃ inner ∈ regions, inner.left ≤ bound) ∧
      (region.top ≤ bound ↔ ∃ inner ∈ regions, inner.top ≤ bound) ∧
      (bound ≤ region.right ↔ ∃ inner ∈ regions, bound ≤ inner.right) ∧
      (bound ≤ region.bottom ↔ ∃ inner ∈ regions, bound ≤ inner.bottom) := by
  induction regions using List.reverseRecOn generalizing region with
  | nil => cases joined
  | append_singleton regions next induction =>
      rw [joinAll_append_singleton] at joined
      cases before : joinAll regions with
      | none =>
          obtain rfl := (joinAll_eq_none_iff regions).mp before
          cases before ▸ joined
          simp
      | some first =>
          obtain ⟨left, top, right, bottom⟩ := induction before
          rw [before] at joined
          cases joined
          simp only [hull, min_le_iff, le_max_iff, left, top, right, bottom, List.mem_append,
            List.mem_singleton, or_and_right, exists_or, exists_eq_left, and_self]

end Region

variable {α : Type} [Scalar α] [HeldNumbers α]

/-! ## Extents -/

/-- Whether the sides of an extent hold those of a region; without a region no box was met. -/
def Extent.Spans (extent : Extent α) : Option Region → Prop
  | none => extent = {}
  | some region => ∃ left top right bottom,
      extent = ⟨some left, some top, some right, some bottom⟩ ∧ Holds left region.left ∧
        Holds top region.top ∧ Holds right region.right ∧ Holds bottom region.bottom

theorem Extent.Spans.add {extent : Extent α} {region : Option Region} (spans : extent.Spans region)
    {next : Region} {left top right bottom : α} (left_held : Holds left next.left)
    (top_held : Holds top next.top) (right_held : Holds right next.right)
    (bottom_held : Holds bottom next.bottom) :
    (extent.add left top right bottom).Spans (Region.join region next) := by
  have first {a : α} {q : ℚ} (held : Holds a q) :
      Scalar.lowest none a = some a ∧ Scalar.highest none a = some a := by
    have equal : (a == a) = true := (beq_iff held held).mpr rfl
    simp [Scalar.lowest, Scalar.highest, isInfinite held, equal]
  cases region with
  | none =>
      cases spans
      refine ⟨left, top, right, bottom, ?_, left_held, top_held, right_held, bottom_held⟩
      simp only [Extent.add, (first left_held).1, (first top_held).1, (first right_held).2,
        (first bottom_held).2]
  | some region =>
      obtain ⟨left', top', right', bottom', rfl, left_held', top_held', right_held',
        bottom_held'⟩ := spans
      exact ⟨_, _, _, _, rfl, holds_min left_held' left_held, holds_min top_held' top_held,
        holds_max right_held' right_held, holds_max bottom_held' bottom_held⟩

/-- Taking in boxes joins their regions. -/
theorem Extent.spans_foldl {ι : Type} {take : Extent α → ι → Extent α} {regionOf : ι → Region}
    {items : List ι} (takes : ∀ item ∈ items, ∀ (extent : Extent α) (region : Option Region),
      extent.Spans region → (take extent item).Spans (Region.join region (regionOf item)))
    {extent : Extent α} {region : Option Region} (spans : extent.Spans region) :
    (items.foldl take extent).Spans ((items.map regionOf).foldl Region.join region) := by
  induction items generalizing extent region with
  | nil => exact spans
  | cons item items induction =>
      rw [List.forall_mem_cons] at takes
      exact induction takes.2 (takes.1 extent region spans)

/-! ## Fields -/

/-- A square field of a given extent, and a margin around it. -/
def field (bound slack : ℕ) : Region :=
  Region.grow ⟨0, 0, bound, bound⟩ slack

theorem field_within {bound slack more : ℕ} (le : slack ≤ more) :
    (field bound slack).Within (field bound more) := by
  have le_cast : (slack : ℚ) ≤ more := Nat.cast_le.mpr le
  exact ⟨sub_le_sub_left le_cast 0, sub_le_sub_left le_cast 0, add_le_add_right le_cast _,
    add_le_add_right le_cast _⟩

theorem field_grow (bound slack distance : ℕ) :
    (field bound slack).grow distance = field bound (slack + distance) := by
  simp only [field, Region.grow, Region.mk.injEq, Nat.cast_add]
  refine ⟨?_, ?_, ?_, ?_⟩ <;> ring

/-- The numbers of a region that can be held in a field. -/
structure Region.Held (α : Type) [Scalar α] [HeldNumbers α] (region : Region) : Prop where
  left : HeldNumbers.Held α region.left
  top : HeldNumbers.Held α region.top
  right : HeldNumbers.Held α region.right
  bottom : HeldNumbers.Held α region.bottom
  width : HeldNumbers.Held α (region.right - region.left)
  height : HeldNumbers.Held α (region.bottom - region.top)

theorem held_of_within {bound slack : ℕ} (fits : Fits α (bound + 2 * slack)) {region : Region}
    (regular : region.Regular) (within : region.Within (field bound slack)) :
    region.Held α := by
  obtain ⟨left_ge, top_ge, right_le, bottom_le⟩ := within
  obtain ⟨left_half, top_half, right_half, bottom_half, wide, high⟩ := regular
  have bound_nonneg : (0 : ℚ) ≤ bound := Nat.cast_nonneg bound
  have slack_nonneg : (0 : ℚ) ≤ slack := Nat.cast_nonneg slack
  simp only [field, Region.grow] at left_ge top_ge right_le bottom_le
  refine ⟨fits _ left_half ?_, fits _ top_half ?_, fits _ right_half ?_, fits _ bottom_half ?_,
    fits _ (right_half.sub left_half) ?_, fits _ (bottom_half.sub top_half) ?_⟩ <;>
  · rw [abs_le]
    constructor <;> linarith

/-! ## Outlines -/

/-- Whether a rectangle holds the corner and the extents of a region. -/
structure Spans (rect : Rect α) (region : Region) : Prop where
  x : Holds rect.x region.left
  y : Holds rect.y region.top
  w : Holds rect.w (region.right - region.left)
  h : Holds rect.h (region.bottom - region.top)

/-- A rectangle holds a point exactly when its region contains it. -/
theorem holds_iff {rect : Rect α} {region : Region} (spans : Spans rect region)
    (held : region.Held α) {point : Point α} {x y : ℚ} (x_held : Holds point.x x)
    (y_held : Holds point.y y) : holds rect point = true ↔ region.Contains x y := by
  have right_held := add spans.x spans.w (by rw [add_sub_cancel]; exact held.right)
  have bottom_held := add spans.y spans.h (by rw [add_sub_cancel]; exact held.bottom)
  rw [add_sub_cancel] at right_held bottom_held
  simp only [holds, Bool.and_eq_true, decide_eq_true_eq, le_iff spans.x x_held,
    le_iff x_held right_held, le_iff spans.y y_held, le_iff y_held bottom_held]
  constructor
  · rintro ⟨⟨⟨left, right⟩, top⟩, bottom⟩
    exact ⟨left, top, right, bottom⟩
  · rintro ⟨left, top, right, bottom⟩
    exact ⟨⟨⟨left, right⟩, top⟩, bottom⟩

/-- The region of a rectangle whose numbers are held. -/
noncomputable def regionOf (rect : Rect α) : Region where
  left := number rect.x
  top := number rect.y
  right := number rect.x + number rect.w
  bottom := number rect.y + number rect.h

theorem Spans.regionOf_eq {rect : Rect α} {region : Region} (spans : Spans rect region) :
    regionOf rect = region := by
  rw [regionOf, number_eq spans.x, number_eq spans.y, number_eq spans.w, number_eq spans.h,
    add_sub_cancel, add_sub_cancel]

/-- Whether a rectangle is held within a field. -/
structure Drawn (bound slack : ℕ) (rect : Rect α) : Prop where
  spans : Spans rect (regionOf rect)
  regular : (regionOf rect).Regular
  within : (regionOf rect).Within (field bound slack)

/-- The square around a node whose numbers are held. -/
noncomputable def squareOf (node : Node α) (distance : ℕ) : Region :=
  Region.around (number node.x) (number node.y) distance

/-- Whether a node is held at half units. -/
structure NodeHeld (node : Node α) : Prop where
  x : ∃ q, Holds node.x q ∧ IsHalf q
  y : ∃ q, Holds node.y q ∧ IsHalf q

theorem regular_squareOf {node : Node α} (held : NodeHeld node) (distance : ℕ) :
    (squareOf node distance).Regular := by
  obtain ⟨⟨x, x_held, x_half⟩, y, y_held, y_half⟩ := held
  rw [squareOf, number_eq x_held, number_eq y_held]
  exact Region.Regular.grow ⟨x_half, y_half, x_half, y_half, le_refl x, le_refl y⟩ distance

/-- The region of an empty cluster at a corner. -/
def emptyRegion (left top : ℕ) : Region where
  left := left
  top := top
  right := left + (Placement.emptyWidth : ℕ)
  bottom := top + (Placement.emptyHeight : ℕ)

theorem regular_emptyRegion (left top : ℕ) : (emptyRegion left top).Regular where
  left := isHalf_natCast left
  top := isHalf_natCast top
  right := (isHalf_natCast left).add (isHalf_natCast _)
  bottom := (isHalf_natCast top).add (isHalf_natCast _)
  wide := le_add_of_nonneg_right (Nat.cast_nonneg _)
  high := le_add_of_nonneg_right (Nat.cast_nonneg _)

section Folds

variable {bound slack : ℕ} (fits : Fits α (bound + 2 * slack))

include fits

/-- Taking in rectangles joins their regions. -/
theorem spans_children {children : List (Rect α)}
    (drawn : ∀ child ∈ children, Drawn bound slack child)
    {extent : Extent α} {before : Option Region} (extent_spans : extent.Spans before) :
    (children.foldl Extent.addRect extent).Spans
      ((children.map regionOf).foldl Region.join before) := by
  apply Extent.spans_foldl _ extent_spans
  intro child child_mem extent region extent_spans
  obtain ⟨child_spans, regular, within⟩ := drawn child child_mem
  have child_held := held_of_within fits regular within
  have right_held := add child_spans.x child_spans.w
    (by rw [add_sub_cancel]; exact child_held.right)
  have bottom_held := add child_spans.y child_spans.h
    (by rw [add_sub_cancel]; exact child_held.bottom)
  rw [add_sub_cancel] at right_held bottom_held
  exact extent_spans.add child_spans.x child_spans.y right_held bottom_held

variable (large : 180 ≤ bound)

include large

theorem holds_constant {size : ℕ} (small : size ≤ 180) : Holds (size : α) size := by
  apply fits.natCast
  have size_le : (size : ℚ) ≤ bound := Nat.cast_le.mpr (small.trans large)
  have slack_nonneg : (0 : ℚ) ≤ slack := Nat.cast_nonneg slack
  linarith

/-- Taking in members joins the squares around them. -/
theorem spans_members {members : List (Node α)} (held : ∀ node ∈ members, NodeHeld node)
    (within : ∀ node ∈ members, (squareOf node memberExtent).Within (field bound slack)) :
    (members.foldl (Extent.addNode memberExtent) {}).Spans
      (Region.joinAll (members.map (squareOf · memberExtent))) := by
  refine Extent.spans_foldl ?_ rfl
  intro node node_mem extent region spans
  have square_held := held_of_within fits (regular_squareOf (held node node_mem) memberExtent)
    (within node node_mem)
  obtain ⟨⟨x, x_held, x_half⟩, y, y_held, y_half⟩ := held node node_mem
  have margin : Holds ((memberExtent : ℕ) : α) ((memberExtent : ℕ) : ℚ) :=
    holds_constant fits large (by decide)
  exact spans.add (sub (holds_number x_held) margin square_held.left)
    (sub (holds_number y_held) margin square_held.top)
    (add (holds_number x_held) margin square_held.right)
    (add (holds_number y_held) margin square_held.bottom)

theorem spans_emptyRect {x y : α} {left top : ℕ} (x_held : Holds x (left : ℚ))
    (y_held : Holds y (top : ℚ)) : Spans (emptyRect x y) (emptyRegion left top) where
  x := x_held
  y := y_held
  w := by
    rw [emptyRegion, add_sub_cancel_left]
    exact holds_constant fits large (by decide)
  h := by
    rw [emptyRegion, add_sub_cancel_left]
    exact holds_constant fits large (by decide)

/-- The rectangle around an extent that was met is its region with the padding. -/
theorem spans_padded {extent : Extent α} {region : Region}
    (extent_spans : extent.Spans (some region)) (held : region.Held α)
    (grown_held : (region.grow padding).Held α) :
    extent.isUnbounded = false ∧
      Spans ⟨extent.minX - ((padding : ℕ) : α), extent.minY - ((padding : ℕ) : α),
          (extent.maxX - extent.minX) + ((padding * 2 : ℕ) : α),
          (extent.maxY - extent.minY) + ((padding * 2 : ℕ) : α)⟩
        (region.grow padding) := by
  obtain ⟨left, top, right, bottom, rfl, left_held, top_held, right_held, bottom_held⟩ :=
    extent_spans
  have pad : Holds ((padding : ℕ) : α) ((padding : ℕ) : ℚ) := holds_constant fits large (by decide)
  have pads : Holds ((padding * 2 : ℕ) : α) ((padding * 2 : ℕ) : ℚ) :=
    holds_constant fits large (by decide)
  have grown_width : (region.grow padding).right - (region.grow padding).left =
      region.right - region.left + ((padding * 2 : ℕ) : ℚ) := by
    simp only [Region.grow]
    push_cast
    ring
  have grown_height : (region.grow padding).bottom - (region.grow padding).top =
      region.bottom - region.top + ((padding * 2 : ℕ) : ℚ) := by
    simp only [Region.grow]
    push_cast
    ring
  obtain ⟨left_grown, top_grown, -, -, width_grown, height_grown⟩ := grown_held
  refine ⟨isInfinite left_held, sub left_held pad left_grown, sub top_held pad top_grown, ?_, ?_⟩
  · rw [grown_width] at width_grown ⊢
    exact add (sub right_held left_held held.width) pads width_grown
  · rw [grown_height] at height_grown ⊢
    exact add (sub bottom_held top_held held.height) pads height_grown

end Folds

/-- The region of an anchored cluster without child clusters: the least one around the squares of
its members, with the padding, or else the place of the empty cluster. -/
noncomputable def plainRegion (members : List (Node α)) (empty : Region) : Region :=
  ((Region.joinAll (members.map (squareOf · memberExtent))).map (·.grow padding)).getD empty

theorem plainRegion_within {members : List (Node α)} {empty outer : Region}
    (inside : ∀ node ∈ members, ((squareOf node memberExtent).grow padding).Within outer)
    (empty_inside : empty.Within outer) : (plainRegion members empty).Within outer := by
  rw [plainRegion]
  cases joined : Region.joinAll (members.map (squareOf · memberExtent)) with
  | none => exact empty_inside
  | some region =>
      rw [Option.map_some, Option.getD_some, Region.grow_within_iff]
      apply (Region.isLeast_of_joinAll joined).least
      simp only [List.forall_mem_map]
      exact fun node node_mem => (Region.grow_within_iff _).mp (inside node node_mem)

/-- What the outline of an anchored cluster is good for: it lies within the field, the squares of
the members lie in it, and without child outlines it is given by the members alone. -/
structure Encloses (bound slack : ℕ) (members : List (Node α)) (children : List (Rect α))
    (empty region : Region) : Prop where
  regular : region.Regular
  within : region.Within (field bound slack)
  around : ∀ node ∈ members, (squareOf node memberExtent).Within region
  plain : children = [] → region = plainRegion members empty

/-- Without child outlines an outline lies wherever the squares of the members with the padding and
the place of the empty cluster do. -/
theorem Encloses.least {bound slack : ℕ} {members : List (Node α)} {children : List (Rect α)}
    {empty region : Region} (encloses : Encloses bound slack members children empty region)
    (no_children : children = []) (outer : Region)
    (inside : ∀ node ∈ members, ((squareOf node memberExtent).grow padding).Within outer)
    (empty_inside : empty.Within outer) : region.Within outer :=
  encloses.plain no_children ▸ plainRegion_within inside empty_inside

section Enclosed

variable {bound slack : ℕ} {members : List (Node α)} {children : List (Rect α)}
  (held : ∀ node ∈ members, NodeHeld node)
  (within : ∀ node ∈ members, (squareOf node memberExtent).Within (field bound slack))
  (drawn : ∀ child ∈ children, Drawn bound slack child)

include held within drawn

/-- What is joined is held within the field, and encloses the members with the padding. -/
theorem encloses_grow {region : Region} (joined : Region.joinAll
      (members.map (squareOf · memberExtent) ++ children.map regionOf) = some region)
    (empty : Region) :
    region.Regular ∧ region.Within (field bound slack) ∧
      Encloses bound (slack + padding) members children empty (region.grow padding) := by
  obtain ⟨around, least, regular_of⟩ := Region.isLeast_of_joinAll joined
  simp only [List.forall_mem_append, List.forall_mem_map] at around least regular_of
  have regular : region.Regular := regular_of
    ⟨fun node node_mem => regular_squareOf (held node node_mem) memberExtent,
      fun child child_mem => (drawn child child_mem).regular⟩
  have in_field : region.Within (field bound slack) :=
    least _ ⟨within, fun child child_mem => (drawn child child_mem).within⟩
  refine ⟨regular, in_field, regular.grow padding,
    field_grow bound slack padding ▸ in_field.grow padding, ?_, ?_⟩
  · exact fun node node_mem => (around.1 node node_mem).trans (region.within_grow padding)
  · rintro rfl
    rw [List.map_nil, List.append_nil] at joined
    rw [plainRegion, joined]
    rfl

variable (fits : Fits α (bound + 2 * (slack + padding : ℕ))) (large : 180 ≤ bound)

include fits large

/-- An anchored cluster is outlined. -/
theorem enclose_spec (nodes : List (Node α)) (clusters : List (Cluster α)) (canvasWidth : α)
    {cluster : Cluster α} {x y : α} {left top : ℕ} (x_eq : cluster.x = some x)
    (y_eq : cluster.y = some y) (x_held : Holds x (left : ℚ)) (y_held : Holds y (top : ℚ))
    (anchor_within : (emptyRegion left top).Within (field bound slack)) :
    ∃ rect region, enclose nodes clusters canvasWidth (some cluster) members children = .ok rect ∧
      Spans rect region ∧
      Encloses bound (slack + padding) members children (emptyRegion left top) region := by
  have fits_slack : Fits α (bound + 2 * slack) := by
    apply fits.mono
    have pad_nonneg : (0 : ℚ) ≤ (padding : ℕ) := Nat.cast_nonneg padding
    push_cast
    linarith
  have extent_spans := spans_children fits_slack drawn (spans_members fits_slack large held within)
  rw [Region.joinAll, ← List.foldl_append, ← Region.joinAll] at extent_spans
  cases joined : Region.joinAll
      (members.map (squareOf · memberExtent) ++ children.map regionOf) with
  | none =>
      obtain ⟨no_members, no_children⟩ :=
        List.append_eq_nil_iff.mp ((Region.joinAll_eq_none_iff _).mp joined)
      obtain rfl := List.map_eq_nil_iff.mp no_members
      obtain rfl := List.map_eq_nil_iff.mp no_children
      refine ⟨emptyRect x y, emptyRegion left top, ?_,
        spans_emptyRect fits_slack large x_held y_held, regular_emptyRegion left top,
        anchor_within.trans (field_within (Nat.le_add_right slack padding)), by simp, ?_⟩
      · simp only [enclose, Option.bind_some, x_eq, y_eq]
        rfl
      · exact fun _ => rfl
  | some region =>
      rw [joined] at extent_spans
      obtain ⟨regular, in_field, encloses⟩ :=
        encloses_grow held within drawn joined (emptyRegion left top)
      obtain ⟨bounded, padded⟩ := spans_padded fits_slack large extent_spans
        (held_of_within fits_slack regular in_field)
        (held_of_within fits encloses.regular encloses.within)
      refine ⟨_, _, ?_, padded, encloses⟩
      simp only [enclose, bounded]
      rfl

end Enclosed

end Outline
end ClusterDiagram
