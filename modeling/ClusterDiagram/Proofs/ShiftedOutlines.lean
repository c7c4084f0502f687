import ClusterDiagram.Proofs.NestedOutlines

/-!
# Outlines of shifted members

When the members of a cluster are shifted while the outlines of its children stay, the outline of
the cluster follows along an axis only if it is not shifted along that axis, or if every child lies
between members there, before as well as after. Without children it always follows.
-/

namespace ClusterDiagram

/-- The least of some elements and some bounds follows a shift of the elements alone exactly if no
bound comes below them on the way. -/
theorem least_eq_add_iff {elements bounds : Set ℚ} {least shifted shift : ℚ}
    (isLeast : IsLeast (elements ∪ bounds) least)
    (isLeast_shifted : IsLeast ((· + shift) '' elements ∪ bounds) shifted) :
    shifted = least + shift ↔
      shift = 0 ∨ ∀ bound ∈ bounds, ∃ element ∈ elements, element + max 0 shift ≤ bound := by
  constructor
  · intro follows
    rcases lt_trichotomy shift 0 with back | still | forth
    · refine Or.inr fun bound bound_mem => ?_
      have above := isLeast.2 (Or.inr bound_mem)
      rcases isLeast_shifted.1 with ⟨element, element_mem, shifted_eq⟩ | shifted_mem
      · refine ⟨element, element_mem, ?_⟩
        rw [max_eq_left back.le]
        dsimp only at shifted_eq
        linarith
      · have below := isLeast.2 (Or.inr shifted_mem)
        linarith
    · exact Or.inl still
    · refine Or.inr fun bound bound_mem => ?_
      have above := isLeast_shifted.2 (Or.inr bound_mem)
      rcases isLeast.1 with least_mem | least_mem
      · refine ⟨least, least_mem, ?_⟩
        rw [max_eq_right forth.le]
        linarith
      · have below := isLeast_shifted.2 (Or.inr least_mem)
        linarith
  · rintro (rfl | reached)
    · have same : (· + (0 : ℚ)) '' elements = elements := by simp
      rw [same] at isLeast_shifted
      rw [add_zero]
      exact isLeast_shifted.unique isLeast
    · have further : shift ≤ max 0 shift := le_max_right 0 shift
      have forward : 0 ≤ max 0 shift := le_max_left 0 shift
      apply le_antisymm
      · rcases isLeast.1 with least_mem | least_mem
        · exact isLeast_shifted.2 (Or.inl ⟨least, least_mem, rfl⟩)
        · obtain ⟨element, element_mem, low⟩ := reached least least_mem
          have below : shifted ≤ element + shift :=
            isLeast_shifted.2 (Or.inl ⟨element, element_mem, rfl⟩)
          linarith
      · rcases isLeast_shifted.1 with ⟨element, element_mem, rfl⟩ | shifted_mem
        · exact add_le_add_left (isLeast.2 (Or.inl element_mem)) shift
        · obtain ⟨element, element_mem, low⟩ := reached shifted shifted_mem
          have above := isLeast.2 (Or.inl element_mem)
          linarith

/-- The same for the greatest. -/
theorem greatest_eq_add_iff {elements bounds : Set ℚ} {greatest shifted shift : ℚ}
    (isGreatest : IsGreatest (elements ∪ bounds) greatest)
    (isGreatest_shifted : IsGreatest ((· + shift) '' elements ∪ bounds) shifted) :
    shifted = greatest + shift ↔
      shift = 0 ∨ ∀ bound ∈ bounds, ∃ element ∈ elements, bound ≤ element + min 0 shift := by
  -- Read from the other side this is about the least of the opposites.
  have antitone : Antitone fun number : ℚ => -number := fun _ _ => neg_le_neg
  have isLeast := antitone.map_isGreatest isGreatest
  have isLeast_shifted := antitone.map_isGreatest isGreatest_shifted
  have opposites : (fun number => -number) '' ((· + shift) '' elements) =
      (· + -shift) '' ((fun number => -number) '' elements) := by
    rw [Set.image_image, Set.image_image]
    exact Set.image_congr fun element _ => neg_add element shift
  rw [Set.image_union] at isLeast
  rw [Set.image_union, opposites] at isLeast_shifted
  have follows := least_eq_add_iff isLeast isLeast_shifted
  rw [← neg_add, neg_inj, neg_eq_zero, Set.forall_mem_image] at follows
  rw [follows]
  have lower (bound element : ℚ) :
      -element + max 0 (-shift) ≤ -bound ↔ bound ≤ element + min 0 shift := by
    have opposite : max 0 (-shift) = -min 0 shift := by rw [← max_neg_neg, neg_zero]
    rw [opposite, ← neg_add, neg_le_neg_iff]
  simp only [Set.exists_mem_image, lower]

/-- A node moved by a distance on each axis. -/
def Node.shift (dx dy : ℚ) (node : Node ℚ) : Node ℚ :=
  { node with x := node.x + dx, y := node.y + dy }

/-- Whether a span lies between places that reach out by a margin, before and after these are
shifted. If they are not shifted at all it need not. -/
def Covers (places : List ℚ) (margin : ℕ) (shift low high : ℚ) : Prop :=
  shift = 0 ∨ (∃ place ∈ places, place - margin + max 0 shift ≤ low) ∧
    ∃ place ∈ places, high ≤ place + margin + min 0 shift

namespace Outline

section

variable {β : Type} {f : β → ℚ} {elements : List β} {bound : ℚ}

/-- A bound that some element reaches is the least value. -/
theorem isLeast_of_reached (reached : ∃ element ∈ elements, f element ≤ bound)
    (bounded : ∀ element ∈ elements, bound ≤ f element) :
    IsLeast (f '' {element | element ∈ elements}) bound := by
  obtain ⟨element, element_mem, below⟩ := reached
  exact ⟨⟨element, element_mem, below.antisymm (bounded element element_mem)⟩,
    Set.forall_mem_image.mpr bounded⟩

theorem isGreatest_of_reached (reached : ∃ element ∈ elements, bound ≤ f element)
    (bounded : ∀ element ∈ elements, f element ≤ bound) :
    IsGreatest (f '' {element | element ∈ elements}) bound := by
  obtain ⟨element, element_mem, above⟩ := reached
  exact ⟨⟨element, element_mem, (bounded element element_mem).antisymm above⟩,
    Set.forall_mem_image.mpr bounded⟩

end

/-- Every side of the least region is the outermost one among those of the regions. -/
theorem extremes_of_joinAll {regions : List Region} {region : Region}
    (joined : Region.joinAll regions = some region) :
    IsLeast (Region.left '' {inner | inner ∈ regions}) region.left ∧
      IsLeast (Region.top '' {inner | inner ∈ regions}) region.top ∧
      IsGreatest (Region.right '' {inner | inner ∈ regions}) region.right ∧
      IsGreatest (Region.bottom '' {inner | inner ∈ regions}) region.bottom := by
  have around := (Region.isLeast_of_joinAll joined).around
  have sides (bound : ℚ) := Region.sides_of_joinAll joined bound
  refine ⟨isLeast_of_reached ((sides _).1.mp le_rfl) ?_,
    isLeast_of_reached ((sides _).2.1.mp le_rfl) ?_,
    isGreatest_of_reached ((sides _).2.2.1.mp le_rfl) ?_,
    isGreatest_of_reached ((sides _).2.2.2.mp le_rfl) ?_⟩
  · exact fun inner inner_mem => (around inner inner_mem).left
  · exact fun inner inner_mem => (around inner inner_mem).top
  · exact fun inner inner_mem => (around inner inner_mem).right
  · exact fun inner inner_mem => (around inner inner_mem).bottom

/-- The square of a member. -/
def memberRegion (node : Node ℚ) : Region :=
  Region.around node.x node.y memberExtent

/-- The squares of members and the rectangles of children. -/
def contents (members : List (Node ℚ)) (children : List (Rect ℚ)) : List Region :=
  members.map memberRegion ++ children.map rectRegion

/-- What lies on one side of members and children. -/
theorem image_contents (side : Region → ℚ) (members : List (Node ℚ)) (children : List (Rect ℚ)) :
    side '' {inner | inner ∈ contents members children} =
      (fun node => side (memberRegion node)) '' {node | node ∈ members} ∪
        (fun child => side (rectRegion child)) '' {child | child ∈ children} := by
  ext number
  simp only [contents, Set.mem_image, Set.mem_ofPred_eq, List.mem_append, List.mem_map,
    or_and_right, exists_or, Set.mem_union, exists_exists_and_eq_and]

theorem rectRegion_injective : Function.Injective rectRegion := by
  rintro ⟨x, y, w, h⟩ ⟨x', y', w', h'⟩ same
  simp only [rectRegion, Region.mk.injEq] at same
  obtain ⟨rfl, rfl, right, bottom⟩ := same
  rw [add_right_inj] at right bottom
  rw [right, bottom]

theorem exists_joinAll {regions : List Region} (filled : regions ≠ []) :
    ∃ region, Region.joinAll regions = some region := by
  rw [← Option.isSome_iff_exists, ← Option.ne_none_iff_isSome, ne_eq, Region.joinAll_eq_none_iff]
  exact filled

section Axis

variable {dx dy shift : ℚ} {members : List (Node ℚ)} {children : List (Rect ℚ)}

theorem image_contents_shift {side : Region → ℚ}
    (moves : ∀ node, side (memberRegion (node.shift dx dy)) = side (memberRegion node) + shift) :
    side '' {inner | inner ∈ contents (members.map (Node.shift dx dy)) children} =
      (· + shift) '' ((fun node => side (memberRegion node)) '' {node | node ∈ members}) ∪
        (fun child => side (rectRegion child)) '' {child | child ∈ children} := by
  rw [image_contents]
  congr 1
  ext number
  simp only [Set.mem_image, Set.mem_ofPred_eq, List.mem_map, exists_exists_and_eq_and, moves]

/-- On one axis the least region follows the members exactly if these cover every child. -/
theorem axis_follows_iff {low high : Region → ℚ} {coordinate : Node ℚ → ℚ}
    (low_eq : ∀ node, low (memberRegion node) = coordinate node - memberExtent)
    (high_eq : ∀ node, high (memberRegion node) = coordinate node + memberExtent)
    (moves : ∀ node : Node ℚ, coordinate (node.shift dx dy) = coordinate node + shift)
    {least greatest least_after greatest_after : ℚ}
    (isLeast : IsLeast (low '' {inner | inner ∈ contents members children}) least)
    (isGreatest : IsGreatest (high '' {inner | inner ∈ contents members children}) greatest)
    (isLeast_after : IsLeast
      (low '' {inner | inner ∈ contents (members.map (Node.shift dx dy)) children}) least_after)
    (isGreatest_after : IsGreatest
      (high '' {inner | inner ∈ contents (members.map (Node.shift dx dy)) children})
        greatest_after) :
    least_after = least + shift ∧ greatest_after = greatest + shift ↔
      ∀ child ∈ children, Covers (members.map coordinate) memberExtent shift
        (low (rectRegion child)) (high (rectRegion child)) := by
  have low_moves (node : Node ℚ) :
      low (memberRegion (node.shift dx dy)) = low (memberRegion node) + shift := by
    rw [low_eq, low_eq, moves, add_sub_right_comm]
  have high_moves (node : Node ℚ) :
      high (memberRegion (node.shift dx dy)) = high (memberRegion node) + shift := by
    rw [high_eq, high_eq, moves, add_right_comm]
  rw [image_contents] at isLeast isGreatest
  rw [image_contents_shift low_moves] at isLeast_after
  rw [image_contents_shift high_moves] at isGreatest_after
  rw [least_eq_add_iff isLeast isLeast_after, greatest_eq_add_iff isGreatest isGreatest_after]
  simp only [Covers, Set.forall_mem_image, Set.exists_mem_image, Set.mem_ofPred_eq, low_eq, high_eq,
    List.mem_map, exists_exists_and_eq_and]
  by_cases still : shift = 0
  · simp only [still, true_or, and_self, implies_true]
  · simp only [still, false_or, forall_and]

end Axis

variable [Lengths]

section Enclosed

variable {nodes moved : List (Node ℚ)} {clusters anchored : List (Cluster ℚ)} {canvasWidth : ℚ}
  {cluster : Option (Cluster ℚ)} {members : List (Node ℚ)} {children : List (Rect ℚ)}
  {outline : Rect ℚ}

/-- An empty cluster lies at its anchor. -/
theorem enclose_nothing {x y : ℚ} (x_eq : cluster.bind (·.x) = some x)
    (y_eq : cluster.bind (·.y) = some y) :
    enclose nodes clusters canvasWidth cluster [] [] = .ok (emptyRect x y) := by
  unfold enclose
  rw [x_eq, y_eq]
  rfl

/-- An empty cluster has the size of empty clusters, wherever it lies. -/
theorem size_of_enclose_nothing
    (done : enclose nodes clusters canvasWidth cluster [] [] = .ok outline) :
    outline.w = (Placement.emptyWidth : ℚ) ∧ outline.h = (Placement.emptyHeight : ℚ) := by
  have unbounded : ({} : Extent ℚ).isUnbounded = true := rfl
  unfold enclose at done
  dsimp only [List.foldl_nil] at done
  rw [if_pos unbounded] at done
  split at done
  · cases done
    exact ⟨rfl, rfl⟩
  · obtain ⟨corner, -, done⟩ := ok_of_bind done
    cases done
    exact ⟨rfl, rfl⟩

/-- The outline around members and children is their least region with the padding. -/
theorem rectRegion_of_enclose
    (done : enclose nodes clusters canvasWidth cluster members children = .ok outline)
    {region : Region} (joined : Region.joinAll (contents members children) = some region) :
    rectRegion outline = region.grow padding := by
  obtain ⟨same, same_done, region_eq⟩ :=
    exists_enclose_rational nodes clusters canvasWidth cluster members children
  obtain rfl := Except.ok.inj (done.symm.trans same_done)
  exact region_eq region joined

/-- When the members of a cluster are shifted by as much as its corner, and the outlines of its
children stay, the outline follows exactly if the members cover the children on both axes. -/
theorem enclose_shift_iff {other : Option (Cluster ℚ)} {corner : Point ℚ} {after : Rect ℚ}
    (before : enclose nodes clusters canvasWidth cluster members children = .ok outline)
    (x_eq : other.bind (·.x) = some corner.x) (y_eq : other.bind (·.y) = some corner.y)
    (done : enclose moved anchored canvasWidth other
      (members.map (Node.shift (corner.x - outline.x) (corner.y - outline.y))) children =
        .ok after) :
    after = ⟨corner.x, corner.y, outline.w, outline.h⟩ ↔ ∀ child ∈ children,
      Covers (members.map (·.x)) memberExtent (corner.x - outline.x) child.x (child.x + child.w) ∧
        Covers (members.map (·.y)) memberExtent (corner.y - outline.y) child.y
          (child.y + child.h) := by
  by_cases empty : members = [] ∧ children = []
  · obtain ⟨rfl, rfl⟩ := empty
    obtain ⟨width, height⟩ := size_of_enclose_nothing before
    obtain rfl := Except.ok.inj ((enclose_nothing x_eq y_eq).symm.trans done)
    rw [width, height]
    exact iff_of_true rfl fun _ child_mem => absurd child_mem List.not_mem_nil
  · have filled : contents members children ≠ [] := by
      simpa [contents, not_and] using empty
    have filled_after : contents (members.map (Node.shift (corner.x - outline.x)
        (corner.y - outline.y))) children ≠ [] := by
      simpa [contents] using filled
    obtain ⟨region, joined⟩ := exists_joinAll filled
    obtain ⟨region_after, joined_after⟩ := exists_joinAll filled_after
    have region_eq := rectRegion_of_enclose before joined
    have region_after_eq := rectRegion_of_enclose done joined_after
    obtain ⟨left, top, right, bottom⟩ := extremes_of_joinAll joined
    obtain ⟨left_after, top_after, right_after, bottom_after⟩ := extremes_of_joinAll joined_after
    have across := axis_follows_iff
      (fun node => show (memberRegion node).left = node.x - memberExtent from rfl)
      (fun node => show (memberRegion node).right = node.x + memberExtent from rfl)
      (fun _ => rfl) left right left_after right_after
    have down := axis_follows_iff
      (fun node => show (memberRegion node).top = node.y - memberExtent from rfl)
      (fun node => show (memberRegion node).bottom = node.y + memberExtent from rfl)
      (fun _ => rfl) top bottom top_after bottom_after
    simp only [rectRegion, Region.grow, Region.mk.injEq] at region_eq region_after_eq across down
    obtain ⟨x_at, y_at, right_at, bottom_at⟩ := region_eq
    obtain ⟨x_after, y_after, far_right, far_bottom⟩ := region_after_eq
    rw [forall₂_and, ← across, ← down]
    obtain ⟨x, y, w, h⟩ := after
    rw [Rect.mk.injEq]
    constructor
    · rintro ⟨rfl, rfl, rfl, rfl⟩
      refine ⟨⟨?_, ?_⟩, ?_, ?_⟩ <;> linarith
    · rintro ⟨⟨left_moved, right_moved⟩, top_moved, bottom_moved⟩
      refine ⟨?_, ?_, ?_, ?_⟩ <;> linarith

/-- The other nodes and clusters count only for an empty cluster without an anchor. -/
theorem enclose_eq_of_grounded (grounded : contents members children ≠ [] ∨
      ((cluster.bind (·.x)).isSome ∧ (cluster.bind (·.y)).isSome)) :
    enclose moved anchored canvasWidth cluster members children =
      enclose nodes clusters canvasWidth cluster members children := by
  by_cases empty : contents members children = []
  · obtain ⟨x_some, y_some⟩ := grounded.resolve_left (not_not.mpr empty)
    obtain ⟨x, x_eq⟩ := Option.isSome_iff_exists.mp x_some
    obtain ⟨y, y_eq⟩ := Option.isSome_iff_exists.mp y_some
    obtain ⟨no_members, no_children⟩ := List.append_eq_nil_iff.mp empty
    rw [List.map_eq_nil_iff.mp no_members, List.map_eq_nil_iff.mp no_children,
      enclose_nothing x_eq y_eq, enclose_nothing x_eq y_eq]
  · obtain ⟨region, joined⟩ := exists_joinAll empty
    obtain ⟨first, first_done, first_eq⟩ :=
      exists_enclose_rational moved anchored canvasWidth cluster members children
    obtain ⟨second, second_done, second_eq⟩ :=
      exists_enclose_rational nodes clusters canvasWidth cluster members children
    rw [first_done, second_done,
      rectRegion_injective ((first_eq region joined).trans (second_eq region joined).symm)]

end Enclosed

end Outline

end ClusterDiagram
