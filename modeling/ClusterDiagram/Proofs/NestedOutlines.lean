import ClusterDiagram.Proofs.OutlineTree
import ClusterDiagram.Proofs.SeparateMembers

/-!
# Outlines nest

When no parent link leads back, every cluster is outlined after its children. Over exact numbers its
outline is then the least rectangle that leaves room around its members and the outlines of its
children, so that the outline of a cluster lies strictly inside that of each of its ancestors.
-/

namespace ClusterDiagram

/-! ## Rectangles -/

/-- The rectangle that reaches a distance further on every side. -/
def Rect.grow (rect : Rect ℚ) (distance : ℕ) : Rect ℚ :=
  ⟨rect.x - distance, rect.y - distance, rect.w + 2 * distance, rect.h + 2 * distance⟩

/-- Whether a rectangle lies in another one without touching its border. -/
def Rect.StrictlyInside (inner outer : Rect ℚ) : Prop :=
  outer.x < inner.x ∧ inner.x + inner.w < outer.x + outer.w ∧
    outer.y < inner.y ∧ inner.y + inner.h < outer.y + outer.h

theorem Rect.StrictlyInside.trans {inner middle outer : Rect ℚ}
    (first : inner.StrictlyInside middle) (second : middle.StrictlyInside outer) :
    inner.StrictlyInside outer :=
  ⟨second.1.trans first.1, first.2.1.trans second.2.1, second.2.2.1.trans first.2.2.1,
    first.2.2.2.trans second.2.2.2⟩

theorem Rect.strictlyInside_of_grow {inner outer : Rect ℚ} {distance : ℕ}
    (inside : (inner.grow distance).Inside outer) (positive : 0 < distance) :
    inner.StrictlyInside outer := by
  obtain ⟨left, right, top, bottom⟩ := inside
  have distance_pos : (0 : ℚ) < distance := Nat.cast_pos.mpr positive
  simp only [Rect.grow] at left right top bottom
  refine ⟨?_, ?_, ?_, ?_⟩ <;> linarith

namespace Outline

open ClusterTree HeldNumbers

/-- The region of a rectangle. -/
def rectRegion (rect : Rect ℚ) : Region :=
  ⟨rect.x, rect.y, rect.x + rect.w, rect.y + rect.h⟩

theorem inside_iff (inner outer : Rect ℚ) :
    inner.Inside outer ↔ (rectRegion inner).Within (rectRegion outer) :=
  ⟨fun ⟨left, right, top, bottom⟩ => ⟨left, top, right, bottom⟩,
    fun ⟨left, top, right, bottom⟩ => ⟨left, right, top, bottom⟩⟩

theorem rectRegion_grow (rect : Rect ℚ) (distance : ℕ) :
    rectRegion (rect.grow distance) = (rectRegion rect).grow distance := by
  simp only [rectRegion, Rect.grow, Region.grow, Region.mk.injEq, true_and]
  constructor <;> ring

theorem rectRegion_square (node : Node ℚ) (half : ℕ) :
    rectRegion (node.square half) = Region.around node.x node.y half := by
  simp only [rectRegion, Node.square, Region.around, Region.grow, Region.mk.injEq, true_and]
  constructor <;> ring

/-- The square of a member with the padding of the outline. -/
theorem square_inside_iff (node : Node ℚ) (outer : Rect ℚ) :
    (node.square (memberExtent + padding)).Inside outer ↔
      ((Region.around node.x node.y memberExtent).grow padding).Within (rectRegion outer) := by
  have grown : (Region.around node.x node.y memberExtent).grow padding =
      Region.around node.x node.y ((memberExtent + padding : ℕ) : ℚ) := by
    simp only [Region.around, Region.grow, Region.mk.injEq, Nat.cast_add]
    refine ⟨?_, ?_, ?_, ?_⟩ <;> ring
  rw [inside_iff, rectRegion_square, grown]

theorem grow_inside_iff (inner outer : Rect ℚ) (distance : ℕ) :
    (inner.grow distance).Inside outer ↔
      ((rectRegion inner).grow distance).Within (rectRegion outer) := by
  rw [inside_iff, rectRegion_grow]

/-! ## Enclosing -/

variable [Lengths]

/-- Taking in members and children joins their squares and their outlines. -/
theorem spans_extent (members : List (Node ℚ)) (children : List (Rect ℚ)) :
    (children.foldl Extent.addRect (members.foldl (Extent.addNode memberExtent) {})).Spans
      (Region.joinAll (members.map (fun node => Region.around node.x node.y memberExtent) ++
        children.map rectRegion)) := by
  rw [Region.joinAll, List.foldl_append]
  refine Extent.spans_foldl (fun child _ extent region spans => spans.add rfl rfl rfl rfl) ?_
  exact Extent.spans_foldl (fun node _ extent region spans => spans.add rfl rfl rfl rfl) rfl

theorem rectRegion_of_spans {rect : Rect ℚ} {region : Region} (spans : Spans rect region) :
    rectRegion rect = region := by
  have x_eq : rect.x = region.left := spans.x
  have y_eq : rect.y = region.top := spans.y
  have w_eq : rect.w = region.right - region.left := spans.w
  have h_eq : rect.h = region.bottom - region.top := spans.h
  rw [rectRegion, x_eq, y_eq, w_eq, h_eq, add_sub_cancel, add_sub_cancel]

/-- Every cluster can be enclosed; what is around members and children is their least region with
the padding. -/
theorem exists_enclose_rational (nodes : List (Node ℚ)) (clusters : List (Cluster ℚ))
    (canvasWidth : ℚ) (cluster : Option (Cluster ℚ)) (members : List (Node ℚ))
    (children : List (Rect ℚ)) :
    ∃ outline, enclose nodes clusters canvasWidth cluster members children = .ok outline ∧
      ∀ region, Region.joinAll (members.map (fun node => Region.around node.x node.y memberExtent)
        ++ children.map rectRegion) = some region →
          rectRegion outline = region.grow padding := by
  have spans := spans_extent members children
  cases joined : Region.joinAll
      (members.map (fun node => Region.around node.x node.y memberExtent) ++
        children.map rectRegion) with
  | none =>
      rw [joined] at spans
      have nothing : children.foldl Extent.addRect
          (members.foldl (Extent.addNode memberExtent) {}) = ({} : Extent ℚ) := spans
      have finite : Placement.FiniteWidth canvasWidth :=
        ⟨_, Placement.floorQuotient_rational canvasWidth⟩
      obtain ⟨corner, corner_eq⟩ := finite.nodeSlot nodes clusters
      suffices enclosed : ∃ outline,
          enclose nodes clusters canvasWidth cluster members children = .ok outline by
        obtain ⟨outline, outline_eq⟩ := enclosed
        exact ⟨outline, outline_eq, fun _ absurd_eq => by cases absurd_eq⟩
      rw [Placement.nodeSlot] at corner_eq
      have unbounded : ({} : Extent ℚ).isUnbounded = true := rfl
      simp only [enclose, nothing, unbounded, if_true, corner_eq]
      split
      · exact ⟨_, rfl⟩
      · exact ⟨_, rfl⟩
  | some region =>
      rw [joined] at spans
      have held (region : Region) : region.Held ℚ :=
        ⟨trivial, trivial, trivial, trivial, trivial, trivial⟩
      obtain ⟨bounded, padded⟩ := spans_padded (fits_rational ((180 : ℕ) + 2 * (0 : ℕ)))
        (le_refl 180) spans (held region) (held (region.grow padding))
      obtain ⟨outline, enclosed, outline_spans⟩ : ∃ outline,
          enclose nodes clusters canvasWidth cluster members children = .ok outline ∧
            Spans outline (region.grow padding) := by
        refine ⟨_, ?_, padded⟩
        simp only [enclose, bounded]
        rfl
      refine ⟨outline, enclosed, ?_⟩
      rintro _ ⟨⟩
      exact rectRegion_of_spans outline_spans

/-- An outline is the least rectangle with room for the members and the outlines of the children, if
there are any. -/
theorem enclose_least {nodes : List (Node ℚ)} {clusters : List (Cluster ℚ)} {canvasWidth : ℚ}
    {cluster : Option (Cluster ℚ)} {members : List (Node ℚ)} {children : List (Rect ℚ)}
    {outline : Rect ℚ}
    (done : enclose nodes clusters canvasWidth cluster members children = .ok outline) :
    ((∀ node ∈ members, (node.square (memberExtent + padding)).Inside outline) ∧
      ∀ child ∈ children, (child.grow padding).Inside outline) ∧
    ∀ other : Rect ℚ, members ≠ [] ∨ children ≠ [] →
      (∀ node ∈ members, (node.square (memberExtent + padding)).Inside other) →
      (∀ child ∈ children, (child.grow padding).Inside other) → outline.Inside other := by
  obtain ⟨same, done', region_eq⟩ :=
    exists_enclose_rational nodes clusters canvasWidth cluster members children
  obtain rfl : outline = same := Except.ok.inj (done.symm.trans done')
  simp only [square_inside_iff, grow_inside_iff, inside_iff outline]
  cases joined : Region.joinAll
      (members.map (fun node => Region.around node.x node.y memberExtent) ++
        children.map rectRegion) with
  | none =>
      obtain ⟨no_members, no_children⟩ :=
        List.append_eq_nil_iff.mp ((Region.joinAll_eq_none_iff _).mp joined)
      obtain rfl := List.map_eq_nil_iff.mp no_members
      obtain rfl := List.map_eq_nil_iff.mp no_children
      simp
  | some region =>
      obtain ⟨around, least, -⟩ := Region.isLeast_of_joinAll joined
      simp only [List.forall_mem_append, List.forall_mem_map] at around least
      rw [region_eq region joined]
      refine ⟨⟨fun node node_mem => (around.1 node node_mem).grow padding,
        fun child child_mem => (around.2 child child_mem).grow padding⟩, ?_⟩
      intro other _ members_inside children_inside
      rw [Region.grow_within_iff]
      apply least
      exact ⟨fun node node_mem => (Region.grow_within_iff _).mp (members_inside node node_mem),
        fun child child_mem => (Region.grow_within_iff _).mp (children_inside child child_mem)⟩

/-! ## Nesting -/

/-- Whether a rectangle leaves 44 units on every side around the members of a cluster, and 8 units
around the outlines of its children. -/
structure LeavesRoom (clusters : List (Cluster ℚ)) (nodes : List (Node ℚ))
    (outlines : List (String × Rect ℚ)) (id : String) (rect : Rect ℚ) : Prop where
  /-- Members lie in it with their surroundings. -/
  members : ∀ node ∈ nodes, node.cluster = some id → (node.square 44).Inside rect
  /-- The outlines of children lie in it with their surroundings. -/
  children : ∀ entry ∈ outlines, parentOf clusters entry.1 = some id →
    (entry.2.grow 8).Inside rect

/-- Outlines that leave no more room than they have to. -/
structure Nested (clusters : List (Cluster ℚ)) (nodes : List (Node ℚ))
    (outlines : List (String × Rect ℚ)) : Prop where
  /-- Every outline leaves room. -/
  room : ∀ entry ∈ outlines, LeavesRoom clusters nodes outlines entry.1 entry.2
  /-- The outline of a cluster with a member or a child is the least rectangle that does. -/
  least : ∀ entry ∈ outlines, (∃ node ∈ nodes, node.cluster = some entry.1) ∨
    (∃ child, parentOf clusters child = some entry.1) → ∀ other : Rect ℚ,
      LeavesRoom clusters nodes outlines entry.1 other → entry.2.Inside other

variable {clusters : List (Cluster ℚ)} {nodes : List (Node ℚ)} {canvasWidth : ℚ}
  {outlines : List (String × Rect ℚ)}

omit [Lengths] in
/-- The outlines of the children of a cluster are those of the clusters whose parent it is. -/
theorem mem_children_iff (ids : (clusters.map (·.id)).Nodup) (acyclic : Acyclic clusters)
    (drawn : (outlines.map (·.1)).Perm (clusters.map (·.id))) {id : String}
    (id_mem : id ∈ clusters.map (·.id)) (rect : Rect ℚ) :
    rect ∈ (childIds clusters id).filterMap (fun child => outlines.lookup child) ↔
      ∃ entry ∈ outlines, parentOf clusters entry.1 = some id ∧ entry.2 = rect := by
  have keys : (outlines.map (·.1)).Nodup := drawn.nodup_iff.mpr ids
  simp only [List.mem_filterMap, mem_childIds_iff_of_acyclic acyclic ids id_mem]
  constructor
  · rintro ⟨child, link, found⟩
    exact ⟨(child, rect), Assoc.mem_of_lookup found, link, rfl⟩
  · rintro ⟨entry, entry_mem, link, rfl⟩
    exact ⟨entry.1, link, Assoc.lookup_of_mem keys entry_mem⟩

/-- Outlines that are drawn after those of the children are nested. -/
theorem InOrder.nested (inOrder : InOrder nodes clusters canvasWidth outlines)
    (ids : (clusters.map (·.id)).Nodup) (acyclic : Acyclic clusters)
    (drawn : (outlines.map (·.1)).Perm (clusters.map (·.id))) :
    Nested clusters nodes outlines := by
  have listed {entry : String × Rect ℚ} (entry_mem : entry ∈ outlines) :
      entry.1 ∈ clusters.map (·.id) := drawn.subset (List.mem_map_of_mem entry_mem)
  constructor
  · intro entry entry_mem
    obtain ⟨⟨members, children⟩, -⟩ := enclose_least (inOrder entry entry_mem).2
    constructor
    · intro node node_mem own
      exact members node (List.mem_filter.mpr ⟨node_mem, beq_iff_eq.mpr own⟩)
    · intro child child_mem link
      exact children child.2 ((mem_children_iff ids acyclic drawn (listed entry_mem) child.2).mpr
        ⟨child, child_mem, link, rfl⟩)
  · intro entry entry_mem content other room
    obtain ⟨-, least⟩ := enclose_least (inOrder entry entry_mem).2
    apply least other
    · rcases content with ⟨node, node_mem, own⟩ | ⟨child, link⟩
      · exact Or.inl (List.ne_nil_of_mem
          (List.mem_filter.mpr ⟨node_mem, beq_iff_eq.mpr own⟩))
      · have child_mem : child ∈ outlines.map (·.1) :=
          drawn.mem_iff.mpr (mem_ids_of_parentOf (by rw [link]; rfl))
        obtain ⟨other_entry, other_mem, rfl⟩ := List.mem_map.mp child_mem
        exact Or.inr (List.ne_nil_of_mem
          ((mem_children_iff ids acyclic drawn (listed entry_mem) other_entry.2).mpr
            ⟨other_entry, other_mem, link, rfl⟩))
    · intro node node_mem
      obtain ⟨all_mem, own⟩ := List.mem_filter.mp node_mem
      exact room.members node all_mem (beq_iff_eq.mp own)
    · intro child child_mem
      obtain ⟨child_entry, child_entry_mem, link, rfl⟩ :=
        (mem_children_iff ids acyclic drawn (listed entry_mem) child).mp child_mem
      exact room.children child_entry child_entry_mem link

omit [Lengths] in
/-- The outline of a cluster lies strictly inside those of its ancestors. -/
theorem Nested.strictlyInside (nested : Nested clusters nodes outlines)
    (all : clusters.map (·.id) ⊆ outlines.map (·.1)) {inner outer : String × Rect ℚ}
    (inner_mem : inner ∈ outlines) (outer_mem : outer ∈ outlines) {steps : ℕ}
    (above : ascend (parentOf clusters) (steps + 1) inner.1 = some outer.1) :
    inner.2.StrictlyInside outer.2 := by
  induction steps generalizing inner with
  | zero =>
      have link : parentOf clusters inner.1 = some outer.1 := by
        rwa [ascend_succ, ascend, Option.bind_some] at above
      exact Rect.strictlyInside_of_grow
        ((nested.room outer outer_mem).children inner inner_mem link) (by decide)
  | succ steps induction =>
      rw [ascend, Option.bind_eq_some_iff] at above
      obtain ⟨parent, link, above⟩ := above
      have linked : (parentOf clusters parent).isSome := by
        rw [ascend, Option.bind_eq_some_iff] at above
        obtain ⟨next, next_link, -⟩ := above
        rw [next_link]
        rfl
      obtain ⟨middle, middle_mem, rfl⟩ := List.mem_map.mp (all (mem_ids_of_parentOf linked))
      have first := Rect.strictlyInside_of_grow
        ((nested.room middle middle_mem).children inner inner_mem link) (by decide)
      exact first.trans (induction middle_mem above)

/-- The walk over the clusters ends with one outline for every cluster, and bounding its paths by
more than there are clusters changes nothing. When no parent link leads back, the outlines are
nested, and the outline of a cluster lies strictly inside those of its ancestors. -/
theorem ofClusters_nested {clusters : List (Cluster ℚ)} (ids : (clusters.map (·.id)).Nodup)
    (nodes : List (Node ℚ)) (canvasWidth : ℚ) :
    ∃ outlines, ofClusters clusters nodes canvasWidth = .ok outlines ∧
      (∀ fuel, clusters.length < fuel → (clusters.map (·.id)).foldlM
        (visit nodes clusters canvasWidth fuel []) [] = .ok outlines) ∧
      (outlines.map (·.1)).Perm (clusters.map (·.id)) ∧
      (Acyclic clusters → Nested clusters nodes outlines ∧
        ∀ inner ∈ outlines, ∀ outer ∈ outlines, ∀ steps,
          ascend (parentOf clusters) (steps + 1) inner.1 = some outer.1 →
            inner.2.StrictlyInside outer.2) := by
  have total (outlines : List (String × Rect ℚ)) (id : String) :
      ∃ outline, encloseNext nodes clusters canvasWidth outlines id = .ok outline := by
    obtain ⟨outline, done, -⟩ := exists_enclose_rational nodes clusters canvasWidth
      (Cluster.lastWith? id clusters) (Layout.membersOf nodes id)
      ((childIds clusters id).filterMap fun child => outlines.lookup child)
    exact ⟨outline, done⟩
  obtain ⟨outlines, done, drawn, inOrder⟩ := exists_ofClusters_inOrder ids total
  refine ⟨outlines, done, fun fuel room => ?_, drawn, fun acyclic => ?_⟩
  · rw [ofClusters_eq_of_lt ids nodes canvasWidth room, done]
  · have nested := (inOrder acyclic).nested ids acyclic drawn
    exact ⟨nested, fun inner inner_mem outer outer_mem steps above =>
      nested.strictlyInside drawn.symm.subset inner_mem outer_mem above⟩

/-- Three clusters in a row of parents, the one in the middle listed first. -/
private def chainOfClusters : List (Cluster ℚ) :=
  [{ id := "b", label := "b", parent := some "a" }, { id := "c", label := "c", parent := some "b" },
    { id := "a", label := "a", parent := some "unknown" }]

/-- A member of the innermost cluster and one of the outermost. -/
private def chainMembers : List (Node ℚ) :=
  [{ id := "m", label := "m", x := 100, y := 100, cluster := some "c" },
    { id := "n", label := "n", x := 300, y := 100, cluster := some "a" }]

omit [Lengths] in
/-- The outline of the innermost cluster is drawn first and that of the outermost last. -/
theorem ofClusters_nested_chain :
    let _ := Lengths.alongAxes
    (chainOfClusters.map (·.id)).Nodup ∧ Acyclic chainOfClusters ∧
      ∃ inner middle outer : Rect ℚ,
        ofClusters chainOfClusters chainMembers 2000 =
          .ok [("c", inner), ("b", middle), ("a", outer)] ∧
        inner = ⟨56, 56, 88, 88⟩ ∧ middle = ⟨48, 48, 104, 104⟩ ∧ outer = ⟨40, 40, 304, 120⟩ ∧
        Nested chainOfClusters chainMembers [("c", inner), ("b", middle), ("a", outer)] ∧
        inner.StrictlyInside outer := by
  intro _
  have ids : (chainOfClusters.map (·.id)).Nodup := by decide
  have acyclic : Acyclic chainOfClusters := by
    simp only [Acyclic, chainOfClusters, List.forall_mem_cons]
    exact ⟨Ends.not_returns ⟨3, by decide⟩, Ends.not_returns ⟨4, by decide⟩,
      Ends.not_returns ⟨2, by decide⟩, fun _ none => absurd none List.not_mem_nil⟩
  obtain ⟨outlines, drawn, -, -, nested⟩ := ofClusters_nested ids chainMembers 2000
  have computed : (ofClusters chainOfClusters chainMembers 2000).toOption =
      some [("c", ⟨56, 56, 88, 88⟩), ("b", ⟨48, 48, 104, 104⟩), ("a", ⟨40, 40, 304, 120⟩)] := by
    decide +kernel
  rw [drawn] at computed
  obtain rfl := Option.some.inj computed
  obtain ⟨room, inside⟩ := nested acyclic
  refine ⟨ids, acyclic, _, _, _, drawn, rfl, rfl, rfl, room, ?_⟩
  exact inside ("c", ⟨56, 56, 88, 88⟩) (by simp) ("a", ⟨40, 40, 304, 120⟩) (by simp) 1 (by decide)

end Outline
end ClusterDiagram
