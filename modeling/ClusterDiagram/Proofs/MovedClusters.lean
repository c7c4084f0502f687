import ClusterDiagram.Proofs.ShiftedOutlines
import ClusterDiagram.Session.Edit

/-!
# Moved clusters

Moving a cluster shifts its own members and sets its anchor. Clusters below it stay where they are,
so that its outline, which encloses theirs too, comes to the corner that was asked for only if they
do not stand in the way: if the cluster has no children, or its members cover them on every axis
along which it is moved. Outlines of clusters that are not above the moved one stay as they are.
-/

namespace ClusterDiagram

namespace ClusterTree

variable {α : Type} {clusters : List (Cluster α)}

/-- Whether parents lead from a cluster to another one, in no step or in more. -/
def Under (clusters : List (Cluster α)) (lower upper : String) : Prop :=
  ∃ steps, ascend (parentOf clusters) steps lower = some upper

theorem under_self (clusters : List (Cluster α)) (id : String) : Under clusters id id :=
  ⟨0, rfl⟩

theorem Under.trans {lower middle upper : String} (first : Under clusters lower middle)
    (second : Under clusters middle upper) : Under clusters lower upper := by
  obtain ⟨steps, reached⟩ := first
  obtain ⟨more, reached_upper⟩ := second
  exact ⟨steps + more, by rw [ascend_add, reached, Option.bind_some, reached_upper]⟩

theorem under_of_parentOf {id parent : String} (link : parentOf clusters id = some parent) :
    Under clusters id parent :=
  ⟨1, by rw [ascend, link, Option.bind_some, ascend]⟩

theorem ascend_none_of_le {up : String → Option String} {steps more : ℕ} {id : String}
    (ended : ascend up steps id = none) (further : steps ≤ more) : ascend up more id = none := by
  obtain ⟨rest, rfl⟩ := Nat.exists_eq_add_of_le further
  rw [ascend_add, ended, Option.bind_none]

/-- When the parents of every cluster end, no chain of parents is longer than some number. -/
theorem exists_height (ends : ∀ cluster ∈ clusters, Ends (parentOf clusters) cluster.id) :
    ∃ height, ∀ id, ascend (parentOf clusters) height id = none := by
  choose! steps ended using ends
  obtain ⟨bound, bounds⟩ := (clusters.map steps).toFinset.bddAbove
  refine ⟨bound + 1, fun id => ?_⟩
  by_cases linked : (parentOf clusters id).isSome
  · obtain ⟨cluster, cluster_mem, rfl⟩ := List.mem_map.mp (mem_ids_of_parentOf linked)
    have within : steps cluster ≤ bound :=
      bounds (List.mem_toFinset.mpr (List.mem_map_of_mem cluster_mem))
    exact ascend_none_of_le (ended cluster cluster_mem) (within.trans (Nat.le_succ bound))
  · rw [ascend, Option.not_isSome_iff_eq_none.mp linked, Option.bind_none]

/-- What passes from the children of every cluster to the cluster itself holds of all clusters. -/
theorem induction_of_children {motive : String → Prop}
    (ends : ∀ cluster ∈ clusters, Ends (parentOf clusters) cluster.id)
    (step : ∀ id, (∀ child, parentOf clusters child = some id → motive child) → motive id)
    (id : String) : motive id := by
  obtain ⟨height, ended⟩ := exists_height ends
  -- The chains that lead up to a child are shorter than those to its parent.
  suffices of_short : ∀ length id, (∀ start, ascend (parentOf clusters) length start ≠ some id) →
      motive id from
    of_short height id fun start reached => by cases (ended start).symm.trans reached
  intro length
  induction length with
  | zero => exact fun id short => absurd rfl (short id)
  | succ length induction =>
      intro id short
      refine step id fun child link => induction child fun start reached => short start ?_
      rw [ascend_succ, reached, Option.bind_some, link]

end ClusterTree

open ClusterTree

/-! ## Anchors and members -/

section Moves

variable {α : Type}

/-- The clusters with a new anchor for one of them. -/
def Cluster.anchorAt (id : String) (corner : Point α) (clusters : List (Cluster α)) :
    List (Cluster α) :=
  clusters.map fun cluster =>
    if cluster.id == id then { cluster with x := some corner.x, y := some corner.y } else cluster

/-- The nodes with the members of a cluster shifted. -/
def Node.shiftMembers (id : String) (dx dy : ℚ) (nodes : List (Node ℚ)) : List (Node ℚ) :=
  nodes.map fun node => if node.cluster == some id then node.shift dx dy else node

variable {id other : String} {corner : Point α} {clusters : List (Cluster α)}

theorem Cluster.unplaced_anchorAt :
    (anchorAt id corner clusters).map Cluster.unplaced = clusters.map Cluster.unplaced := by
  rw [anchorAt, List.map_map]
  apply List.map_congr_left
  intro cluster _
  rw [Function.comp_apply]
  split <;> rfl

theorem Cluster.map_id_anchorAt :
    (anchorAt id corner clusters).map (·.id) = clusters.map (·.id) := by
  rw [← map_id_unplaced, unplaced_anchorAt, map_id_unplaced]

theorem ClusterTree.parentOf_anchorAt :
    parentOf (Cluster.anchorAt id corner clusters) = parentOf clusters := by
  rw [← parentOf_unplaced, Cluster.unplaced_anchorAt, parentOf_unplaced]

theorem ClusterTree.acyclic_anchorAt (acyclic : Acyclic clusters) :
    Acyclic (Cluster.anchorAt id corner clusters) := by
  intro cluster cluster_mem
  have listed : cluster.id ∈ (Cluster.anchorAt id corner clusters).map (·.id) :=
    List.mem_map_of_mem cluster_mem
  rw [Cluster.map_id_anchorAt] at listed
  obtain ⟨original, original_mem, same⟩ := List.mem_map.mp listed
  rw [parentOf_anchorAt, ← same]
  exact acyclic original original_mem

theorem Outline.childIds_unplaced (clusters : List (Cluster α)) (id : String) :
    childIds (clusters.map Cluster.unplaced) id = childIds clusters id := by
  simp only [childIds, Cluster.isListed, List.filter_map, List.map_map, List.any_map,
    Function.comp_def, Cluster.unplaced_id, Cluster.unplaced_parent]

theorem Outline.childIds_anchorAt :
    childIds (Cluster.anchorAt id corner clusters) other = childIds clusters other := by
  rw [← childIds_unplaced, Cluster.unplaced_anchorAt, childIds_unplaced]

/-- Other clusters keep their anchors. -/
theorem Cluster.lastWith?_anchorAt_of_ne (ids : (clusters.map (·.id)).Nodup) {cluster : Cluster α}
    (cluster_mem : cluster ∈ clusters) (apart : cluster.id ≠ id) :
    lastWith? cluster.id (anchorAt id corner clusters) = some cluster := by
  have kept : cluster ∈ anchorAt id corner clusters :=
    List.mem_map.mpr ⟨cluster, cluster_mem, if_neg (by simpa using apart)⟩
  refine lastWith?_eq_some ?_ kept
  rwa [map_id_anchorAt]

theorem Cluster.lastWith?_anchorAt_self (ids : (clusters.map (·.id)).Nodup) {cluster : Cluster α}
    (cluster_mem : cluster ∈ clusters) :
    lastWith? cluster.id (anchorAt cluster.id corner clusters) =
      some { cluster with x := some corner.x, y := some corner.y } := by
  have anchored : { cluster with x := some corner.x, y := some corner.y } ∈
      anchorAt cluster.id corner clusters :=
    List.mem_map.mpr ⟨cluster, cluster_mem, if_pos (by simp)⟩
  refine lastWith?_eq_some ?_ anchored
  rwa [map_id_anchorAt]

/-- Shifting members leaves them in their clusters. -/
theorem Node.membersOf_shiftMembers (id other : String) (dx dy : ℚ) (nodes : List (Node ℚ)) :
    Layout.membersOf (shiftMembers id dx dy nodes) other =
      shiftMembers id dx dy (Layout.membersOf nodes other) := by
  rw [Layout.membersOf, Layout.membersOf, shiftMembers, shiftMembers, List.filter_map]
  congr 1
  apply List.filter_congr
  intro node _
  rw [Function.comp_apply]
  split <;> rfl

theorem Node.membersOf_shiftMembers_self (id : String) (dx dy : ℚ) (nodes : List (Node ℚ)) :
    Layout.membersOf (shiftMembers id dx dy nodes) id =
      (Layout.membersOf nodes id).map (Node.shift dx dy) := by
  rw [membersOf_shiftMembers]
  apply List.map_congr_left
  intro node node_mem
  exact if_pos (List.mem_filter.mp node_mem).2

/-- Members of other clusters stay. -/
theorem Node.membersOf_shiftMembers_of_ne (dx dy : ℚ) (nodes : List (Node ℚ)) (apart : other ≠ id) :
    Layout.membersOf (shiftMembers id dx dy nodes) other = Layout.membersOf nodes other := by
  rw [membersOf_shiftMembers, shiftMembers]
  refine (List.map_congr_left fun node node_mem => if_neg ?_).trans (List.map_id _)
  have own := beq_iff_eq.mp (List.mem_filter.mp node_mem).2
  rw [own, beq_iff_eq, Option.some.injEq]
  exact apart

end Moves

/-! ## Outlines -/

/-- The rectangle with its corner at another point. -/
def Rect.moveTo (rect : Rect ℚ) (corner : Point ℚ) : Rect ℚ :=
  ⟨corner.x, corner.y, rect.w, rect.h⟩

namespace Outline

/-- Whether a cluster has an anchor, a member or a child, so that its outline does not depend on
where there is room. -/
def Grounded (clusters : List (Cluster ℚ)) (nodes : List (Node ℚ)) (cluster : Cluster ℚ) : Prop :=
  (cluster.x.isSome ∧ cluster.y.isSome) ∨ (∃ node ∈ nodes, node.cluster = some cluster.id) ∨
    childIds clusters cluster.id ≠ []

variable {clusters : List (Cluster ℚ)} {nodes : List (Node ℚ)} {canvasWidth : ℚ}

/-- A grounded cluster has something to enclose, or an anchor. -/
theorem Grounded.filled {cluster : Cluster ℚ} (grounded : Grounded clusters nodes cluster)
    {outlines : List (String × Rect ℚ)}
    (drawn : (outlines.map (·.1)).Perm (clusters.map (·.id))) :
    contents (Layout.membersOf nodes cluster.id)
        ((childIds clusters cluster.id).filterMap fun child => outlines.lookup child) ≠ [] ∨
      (((some cluster).bind (·.x)).isSome ∧ ((some cluster).bind (·.y)).isSome) := by
  rcases grounded with anchored | ⟨node, node_mem, own⟩ | parental
  · exact Or.inr anchored
  · refine Or.inl (List.append_ne_nil_of_left_ne_nil ?_ _)
    have member : node ∈ Layout.membersOf nodes cluster.id :=
      List.mem_filter.mpr ⟨node_mem, beq_iff_eq.mpr own⟩
    exact List.ne_nil_of_mem (List.mem_map_of_mem member)
  · refine Or.inl (List.append_ne_nil_of_right_ne_nil _ ?_)
    obtain ⟨child, child_mem⟩ := List.exists_mem_of_ne_nil _ parental
    have listed := childIds_subset clusters cluster.id child_mem
    obtain ⟨outline, found⟩ :=
      Option.isSome_iff_exists.mp (Assoc.isSome_lookup_iff.mpr (drawn.mem_iff.mpr listed))
    exact List.ne_nil_of_mem
      (List.mem_map_of_mem (List.mem_filterMap.mpr ⟨child, child_mem, found⟩))

variable [Lengths]

theorem exists_encloseNext (nodes : List (Node ℚ)) (clusters : List (Cluster ℚ)) (canvasWidth : ℚ)
    (outlines : List (String × Rect ℚ)) (id : String) :
    ∃ outline, encloseNext nodes clusters canvasWidth outlines id = .ok outline := by
  obtain ⟨outline, done, -⟩ := exists_enclose_rational nodes clusters canvasWidth
    (Cluster.lastWith? id clusters) (Layout.membersOf nodes id)
    ((childIds clusters id).filterMap fun child => outlines.lookup child)
  exact ⟨outline, done⟩

theorem InOrder.exists_outline {outlines : List (String × Rect ℚ)}
    (inOrder : InOrder nodes clusters canvasWidth outlines)
    (drawn : (outlines.map (·.1)).Perm (clusters.map (·.id))) {id : String}
    (listed : id ∈ clusters.map (·.id)) :
    ∃ outline, outlines.lookup id = some outline ∧
      encloseNext nodes clusters canvasWidth outlines id = .ok outline := by
  obtain ⟨outline, found⟩ :=
    Option.isSome_iff_exists.mp (Assoc.isSome_lookup_iff.mpr (drawn.mem_iff.mpr listed))
  exact ⟨outline, found, (inOrder (id, outline) (Assoc.mem_of_lookup found)).2⟩

section Frame

variable {id : String} {dx dy : ℚ} {corner : Point ℚ} {before after : List (String × Rect ℚ)}
  (ids : (clusters.map (·.id)).Nodup)
  (ends : ∀ cluster ∈ clusters, Ends (parentOf clusters) cluster.id)
  (inOrder : InOrder nodes clusters canvasWidth before)
  (drawn : (before.map (·.1)).Perm (clusters.map (·.id)))
  (inOrder_after : InOrder (Node.shiftMembers id dx dy nodes)
    (Cluster.anchorAt id corner clusters) canvasWidth after)
  (drawn_after : (after.map (·.1)).Perm (clusters.map (·.id)))

include ids ends inOrder drawn inOrder_after drawn_after

/-- A cluster that is not above a moved one keeps its outline, unless there is an empty cluster
without an anchor at or below it. -/
theorem lookup_eq_of_not_under (other : String) (apart : ¬ Under clusters id other)
    (grounded : ∀ cluster ∈ clusters, Under clusters cluster.id other →
      Grounded clusters nodes cluster) :
    after.lookup other = before.lookup other := by
  induction other using induction_of_children ends with
  | step other induction =>
      have same_ids : (Cluster.anchorAt id corner clusters).map (·.id) = clusters.map (·.id) :=
        Cluster.map_id_anchorAt
      by_cases listed : other ∈ clusters.map (·.id)
      · obtain ⟨cluster, cluster_mem, rfl⟩ := List.mem_map.mp listed
        have different : cluster.id ≠ id := fun same => apart (same ▸ under_self clusters id)
        have children_eq : ∀ child ∈ childIds clusters cluster.id,
            after.lookup child = before.lookup child := by
          intro child child_mem
          have link := ((mem_childIds_iff ids listed child).mp child_mem).1
          have below := under_of_parentOf link
          exact induction child link (fun above => apart (above.trans below))
            fun lower lower_mem under => grounded lower lower_mem (under.trans below)
        obtain ⟨outline, found, done⟩ := inOrder.exists_outline drawn listed
        obtain ⟨again, found_after, done_after⟩ :=
          inOrder_after.exists_outline (drawn_after.trans (.of_eq same_ids.symm))
            (same_ids ▸ listed)
        have own := (grounded cluster cluster_mem (under_self clusters _)).filled drawn
        rw [encloseNext, Cluster.lastWith?_anchorAt_of_ne ids cluster_mem different,
          Node.membersOf_shiftMembers_of_ne dx dy nodes different, childIds_anchorAt,
          List.filterMap_congr children_eq, enclose_eq_of_grounded own,
          ← Cluster.lastWith?_eq_some ids cluster_mem] at done_after
        rw [found, found_after, Except.ok.inj (done_after.symm.trans done)]
      · have absent : other ∉ before.map (·.1) := fun key => listed (drawn.mem_iff.mp key)
        have absent_after : other ∉ after.map (·.1) :=
          fun key => listed (drawn_after.mem_iff.mp key)
        rw [Assoc.lookup_eq_none_of_not_mem absent, Assoc.lookup_eq_none_of_not_mem absent_after]

end Frame

/-- While its children keep their outlines, the outline of a moved cluster comes to the corner
exactly if its members cover them. -/
theorem outline_eq_moveTo_iff {id : String} {corner : Point ℚ}
    {before after : List (String × Rect ℚ)} {outline outline_after : Rect ℚ}
    (ids : (clusters.map (·.id)).Nodup) (listed : id ∈ clusters.map (·.id))
    (enclosed : encloseNext nodes clusters canvasWidth before id = .ok outline)
    (enclosed_after : encloseNext
      (Node.shiftMembers id (corner.x - outline.x) (corner.y - outline.y) nodes)
      (Cluster.anchorAt id corner clusters) canvasWidth after id = .ok outline_after)
    (kept : ∀ child ∈ childIds clusters id, after.lookup child = before.lookup child) :
    outline_after = outline.moveTo corner ↔
      ∀ child ∈ childIds clusters id, ∀ rect, before.lookup child = some rect →
        Covers ((Layout.membersOf nodes id).map (·.x)) memberExtent (corner.x - outline.x)
          rect.x (rect.x + rect.w) ∧
        Covers ((Layout.membersOf nodes id).map (·.y)) memberExtent (corner.y - outline.y)
          rect.y (rect.y + rect.h) := by
  obtain ⟨cluster, cluster_mem, rfl⟩ := List.mem_map.mp listed
  rw [encloseNext, Cluster.lastWith?_anchorAt_self ids cluster_mem,
    Node.membersOf_shiftMembers_self, childIds_anchorAt, List.filterMap_congr kept]
    at enclosed_after
  have follows := enclose_shift_iff enclosed rfl rfl enclosed_after
  rw [Rect.moveTo, follows]
  simp only [List.mem_filterMap, forall_exists_index, and_imp]
  exact ⟨fun covered child child_mem rect found => covered rect child child_mem found,
    fun covered rect child child_mem found => covered child child_mem rect found⟩

end Outline

/-! ## Sessions -/

namespace Session

open Outline

section

variable [Lengths]

/-- Moving a cluster gives it an anchor and shifts its own members. -/
theorem moveCluster_eq {context : Context ℚ} {session : Session ℚ} {id : String}
    (listed : id ∈ session.graph.clusters.map (·.id)) {outlines : List (String × Rect ℚ)}
    (done : ofClusters session.graph.clusters session.graph.nodes
      context.settings.canvas.width = .ok outlines) {outline : Rect ℚ}
    (found : outlines.lookup id = some outline) (corner : Point ℚ) :
    moveCluster context session id corner = .ok { session with
      graph := { session.graph with
        clusters := Cluster.anchorAt id corner session.graph.clusters
        nodes := Node.shiftMembers id (corner.x - outline.x) (corner.y - outline.y)
          session.graph.nodes } } := by
  have known : session.requireCluster id = .ok () :=
    if_pos (Cluster.isListed_iff.mpr listed)
  simp only [moveCluster, known, done, ofArithmetic, bind, Except.bind, found]
  rfl

/-- A cluster of a valid diagram can be moved to any corner. Its outline comes to that corner and
keeps its size if the cluster has no children; if it has some, and these keep their outlines,
exactly if its members cover them on both axes. Every outline is kept that belongs to no cluster
above, as long as no empty cluster at or below lacks an anchor. -/
theorem moveCluster_outline (context : Context ℚ) {session : Session ℚ}
    (valid : session.graph.Valid) {id : String}
    (listed : id ∈ session.graph.clusters.map (·.id)) (corner : Point ℚ) :
    ∃ moved before after outline outline_after,
      moveCluster context session id corner = .ok moved ∧
      ofClusters session.graph.clusters session.graph.nodes context.settings.canvas.width =
        .ok before ∧
      ofClusters moved.graph.clusters moved.graph.nodes context.settings.canvas.width =
        .ok after ∧
      before.lookup id = some outline ∧ after.lookup id = some outline_after ∧
      (childIds session.graph.clusters id = [] → outline_after = outline.moveTo corner) ∧
      ((∀ child ∈ childIds session.graph.clusters id, after.lookup child = before.lookup child) →
        (outline_after = outline.moveTo corner ↔
          ∀ child ∈ childIds session.graph.clusters id, ∀ rect, before.lookup child = some rect →
            Covers ((session.graph.members id).map (·.x)) memberExtent (corner.x - outline.x)
              rect.x (rect.x + rect.w) ∧
            Covers ((session.graph.members id).map (·.y)) memberExtent (corner.y - outline.y)
              rect.y (rect.y + rect.h))) ∧
      ∀ other, ¬ Under session.graph.clusters id other →
        (∀ cluster ∈ session.graph.clusters, Under session.graph.clusters cluster.id other →
          Grounded session.graph.clusters session.graph.nodes cluster) →
        after.lookup other = before.lookup other := by
  have ids := valid.clusterIds
  have acyclic : Acyclic session.graph.clusters :=
    fun cluster cluster_mem => (valid.ends cluster cluster_mem).not_returns
  obtain ⟨before, before_done, drawn, inOrder⟩ := exists_ofClusters_inOrder ids
    (exists_encloseNext session.graph.nodes session.graph.clusters context.settings.canvas.width)
  obtain ⟨outline, found, enclosed⟩ := (inOrder acyclic).exists_outline drawn listed
  have same_ids : (Cluster.anchorAt id corner session.graph.clusters).map (·.id) =
      session.graph.clusters.map (·.id) := Cluster.map_id_anchorAt
  obtain ⟨after, after_done, drawn_after, inOrder_after⟩ :=
    exists_ofClusters_inOrder (same_ids ▸ ids) (exists_encloseNext
      (Node.shiftMembers id (corner.x - outline.x) (corner.y - outline.y) session.graph.nodes)
      (Cluster.anchorAt id corner session.graph.clusters) context.settings.canvas.width)
  have inOrder_after := inOrder_after (acyclic_anchorAt acyclic)
  obtain ⟨outline_after, found_after, enclosed_after⟩ :=
    inOrder_after.exists_outline drawn_after (same_ids ▸ listed)
  rw [same_ids] at drawn_after
  have follows := outline_eq_moveTo_iff ids listed enclosed enclosed_after
  refine ⟨_, before, after, outline, outline_after, moveCluster_eq listed before_done found corner,
    before_done, after_done, found, found_after, fun childless => ?_, follows, ?_⟩
  · rw [childless] at follows
    exact (follows (by simp)).mpr (by simp)
  · exact lookup_eq_of_not_under ids valid.ends (inOrder acyclic) drawn inOrder_after drawn_after

end

/-- A cluster without members of its own around another one with a single member. -/
private def boxedSession : Session ℚ where
  graph :=
    { clusters := [{ id := "a", label := "A" }, { id := "b", label := "B", parent := some "a" }]
      nodes := [{ id := "n", label := "N", x := 100, y := 100, cluster := some "b" }] }

private def boxedContext : Context ℚ where
  settings := { canvas := ⟨2000, 1200⟩, serviceAddress := "", usesRemote := false, timeout := 10 }
  token := toString

/-- The inner cluster stays where it is, and holds the outer one back. -/
theorem moveCluster_outline_boxed :
    let _ := Lengths.alongAxes
    ∃ moved before after outline outline_after,
      moveCluster boxedContext boxedSession "a" ⟨148, 148⟩ = .ok moved ∧
      ofClusters boxedSession.graph.clusters boxedSession.graph.nodes 2000 = .ok before ∧
      ofClusters moved.graph.clusters moved.graph.nodes 2000 = .ok after ∧
      before.lookup "a" = some outline ∧ after.lookup "a" = some outline_after ∧
      outline = ⟨48, 48, 104, 104⟩ ∧ after.lookup "b" = before.lookup "b" ∧
      outline_after ≠ ⟨148, 148, 104, 104⟩ := by
  intro _
  have valid : boxedSession.graph.Valid := Graph.valid_of_violations (by decide +kernel)
  obtain ⟨moved, before, after, outline, outline_after, done, before_done, after_done, found,
    found_after, -, follows, kept⟩ := moveCluster_outline boxedContext valid
      (show "a" ∈ boxedSession.graph.clusters.map (·.id) by decide) ⟨148, 148⟩
  have computed : (ofClusters boxedSession.graph.clusters boxedSession.graph.nodes 2000).toOption =
      some [("b", ⟨56, 56, 88, 88⟩), ("a", ⟨48, 48, 104, 104⟩)] := by
    decide +kernel
  have before_done : ofClusters boxedSession.graph.clusters boxedSession.graph.nodes 2000 =
      .ok before := before_done
  rw [before_done] at computed
  obtain rfl := Option.some.inj computed
  obtain rfl : ⟨48, 48, 104, 104⟩ = outline := Option.some.inj found
  have stays : after.lookup "b" = some ⟨56, 56, 88, 88⟩ := by
    apply kept "b"
    · rintro ⟨_ | steps, above⟩
      · exact absurd (Option.some.inj above) (by decide)
      · cases above
    · refine List.forall_mem_cons.mpr ⟨fun _ => ?_, List.forall_mem_singleton.mpr fun _ => ?_⟩
      · exact Or.inr (Or.inr (by decide))
      · exact Or.inr (Or.inl ⟨_, List.mem_singleton_self _, rfl⟩)
  refine ⟨moved, _, after, _, outline_after, done, before_done, after_done, rfl, found_after, rfl,
    stays, fun moved_eq => ?_⟩
  have covered := (follows (List.forall_mem_singleton.mpr stays)).mp moved_eq "b"
    (List.mem_singleton_self _) ⟨56, 56, 88, 88⟩ rfl
  rcases covered.1 with still | ⟨⟨place, place_mem, -⟩, -⟩
  · norm_num at still
  · cases place_mem

end Session

end ClusterDiagram
