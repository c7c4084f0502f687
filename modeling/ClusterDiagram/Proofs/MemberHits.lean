import ClusterDiagram.Proofs.FreshLayouts
import ClusterDiagram.Proofs.HitTesting

/-!
# Hits at members

A node that is added at a member of a cluster, or dropped there, joins the innermost cluster at that
point. In a session that was updated with a text this is the cluster of the member, unless the
outline of a cluster with child clusters reaches over it and goes before.
-/

namespace ClusterDiagram
namespace Session

open HeldNumbers

variable {α : Type}

/-! ## Nodes by id -/

theorem exists_requireNode_ok {session : Session α} {id : String}
    (listed : id ∈ session.graph.nodes.map (·.id)) :
    ∃ node ∈ session.graph.nodes, session.requireNode id = .ok node ∧ node.id = id := by
  obtain ⟨node, node_mem, node_id⟩ := List.mem_map.mp listed
  obtain ⟨found, found_eq⟩ : ∃ found, session.graph.nodes.find? (fun node => node.id == id) =
      some found := by
    rw [← Option.isSome_iff_exists, List.find?_isSome]
    exact ⟨node, node_mem, beq_iff_eq.mpr node_id⟩
  have same : (found.id == id) = true :=
    List.find?_some (p := fun node : Node α => node.id == id) found_eq
  exact ⟨found, List.mem_of_find?_eq_some found_eq, by rw [requireNode, found_eq],
    beq_iff_eq.mp same⟩

section Changes

variable (session : Session α) (id : String) {change : Node α → Node α}

theorem eq_change_of_mem {node : Node α} (node_mem : node ∈ (session.changeNode id change).nodes)
    (same : node.id = id) :
    ∃ before, node = change before := by
  obtain ⟨before, -, rfl⟩ := List.mem_map.mp node_mem
  split at same
  · rename_i here
    exact ⟨before, by rw [if_pos here]⟩
  · rename_i elsewhere
    exact absurd (beq_iff_eq.mpr same) elsewhere

variable (ids : ∀ node, (change node).id = node.id)

include ids

theorem map_id_changeNode :
    (session.changeNode id change).nodes.map (·.id) = session.graph.nodes.map (·.id) := by
  rw [changeNode, withNodes, List.map_map]
  apply List.map_congr_left
  intro node _
  rw [Function.comp_apply]
  split
  · exact ids node
  · rfl

/-- Changing the nodes with an id leaves the others as they are. -/
theorem filter_changeNode :
    (session.changeNode id change).nodes.filter (fun other => other.id != id) =
      session.graph.nodes.filter fun other => other.id != id := by
  have same_test : (fun other : Node α => other.id != id) ∘
      (fun node => if node.id == id then change node else node) = fun other => other.id != id := by
    funext node
    rw [Function.comp_apply]
    split
    · rw [ids]
    · rfl
  rw [changeNode, withNodes, List.filter_map, same_test]
  conv_rhs => rw [← List.map_id (List.filter _ _)]
  apply List.map_congr_left
  intro node node_mem
  have other : (node.id != id) = true := (List.mem_filter.mp node_mem).2
  rw [if_neg (by simpa using other)]
  rfl

end Changes

/-! ## Joining clusters -/

variable [Scalar α]

/-- A node that is added joins the cluster that is hit. -/
theorem exists_addNode_ok (context : Context α) {session : Session α}
    {outlines : List (String × Rect α)}
    (drawn : Outline.ofClusters session.graph.clusters session.graph.nodes (standardWidth : α) =
      .ok outlines) (label : String) (point : Point α) (name : Option String) :
    ∃ edited added, session.addNode context label point name = .ok (edited, added) ∧
      added.cluster = Outline.clusterAt? point session.graph.clusters outlines ∧
      edited.graph.nodes = session.graph.nodes ++ [added] := by
  simp only [addNode, clusterAt?, drawn, ofArithmetic, bind, Except.bind, pure, Except.pure]
  exact ⟨_, _, rfl, rfl, rfl⟩

/-- Dropping a node sets its cluster to the one that is hit when the node is left out. -/
theorem finalizeNodeMove_of_required (context : Context α) {session : Session α} {id : String}
    {node : Node α} (required : session.requireNode id = .ok node)
    {outlines : List (String × Rect α)}
    (drawn : Outline.ofClusters session.graph.clusters
      (session.graph.nodes.filter fun other => other.id != id)
      context.settings.canvas.width = .ok outlines) :
    session.finalizeNodeMove context id =
      .ok (session.commit (session.changeNode id fun other => { other with
          cluster := Outline.clusterAt? ⟨node.x, node.y⟩ session.graph.clusters outlines }),
        Outline.clusterAt? ⟨node.x, node.y⟩ session.graph.clusters outlines) := by
  simp only [finalizeNodeMove, required, drawn, ofArithmetic, bind, Except.bind, pure, Except.pure]

/-- A node that is dropped joins the cluster that is hit when the node is left out. -/
theorem exists_finalizeNodeMove_ok (context : Context α) {session : Session α} {id : String}
    (listed : id ∈ session.graph.nodes.map (·.id)) (point : Point α)
    {outlines : List (String × Rect α)}
    (drawn : Outline.ofClusters session.graph.clusters
      (session.graph.nodes.filter fun other => other.id != id)
      context.settings.canvas.width = .ok outlines) :
    ∃ moved edited, session.moveNode id point = .ok moved ∧
      moved.finalizeNodeMove context id =
        .ok (edited, Outline.clusterAt? point session.graph.clusters outlines) ∧
      ∀ node ∈ edited.graph.nodes, node.id = id →
        node.cluster = Outline.clusterAt? point session.graph.clusters outlines := by
  let move (node : Node α) : Node α := { node with x := point.x, y := point.y }
  have move_ids (node : Node α) : (move node).id = node.id := rfl
  let moved : Session α := { session with graph := session.changeNode id move }
  obtain ⟨node, -, required, -⟩ := exists_requireNode_ok listed
  have moved_eq : session.moveNode id point = .ok moved := by
    rw [moveNode, required]
    rfl
  have moved_listed : id ∈ moved.graph.nodes.map (·.id) := by
    rwa [map_id_changeNode session id move_ids]
  obtain ⟨dropped, dropped_mem, found, dropped_id⟩ := exists_requireNode_ok moved_listed
  obtain ⟨before, rfl⟩ := eq_change_of_mem session id dropped_mem dropped_id
  have drawn_moved : Outline.ofClusters moved.graph.clusters
      (moved.graph.nodes.filter fun other => other.id != id) context.settings.canvas.width =
        .ok outlines := by
    rw [filter_changeNode session id move_ids]
    exact drawn
  let settle (node : Node α) : Node α :=
    { node with cluster := Outline.clusterAt? point session.graph.clusters outlines }
  refine ⟨moved, moved.commit (moved.changeNode id settle), moved_eq,
    finalizeNodeMove_of_required context found drawn_moved, ?_⟩
  intro node node_mem node_id
  obtain ⟨before, rfl⟩ := eq_change_of_mem moved id node_mem node_id
  rfl

/-! ## Hits at members -/

/-- What happens at the members of clusters: a node that is added at a member joins the cluster that
is hit there, and so does any other node that is dropped there. -/
structure HitsMembers (context : Context α) (session : Session α) : Prop where
  /-- Adding a node. -/
  added : ∀ node ∈ session.graph.nodes, ∀ id, node.cluster = some id → ∃ outlines hit,
    Outline.ofClusters session.graph.clusters session.graph.nodes (standardWidth : α) =
        .ok outlines ∧
      Outline.HitsMember session.graph.clusters outlines node id hit ∧
      session.clusterAt? ⟨node.x, node.y⟩ = .ok hit ∧
      ∀ label name, ∃ edited added,
        session.addNode context label ⟨node.x, node.y⟩ name = .ok (edited, added) ∧
          added.cluster = hit ∧ edited.graph.nodes = session.graph.nodes ++ [added]
  /-- Dropping a node. -/
  dropped : ∀ node ∈ session.graph.nodes, ∀ id, node.cluster = some id →
    ∀ dragged ∈ session.graph.nodes, dragged.id ≠ node.id → ∃ outlines hit,
      Outline.ofClusters session.graph.clusters
          (session.graph.nodes.filter fun other => other.id != dragged.id)
          context.settings.canvas.width = .ok outlines ∧
        Outline.HitsMember session.graph.clusters outlines node id hit ∧
        ∃ moved edited, session.moveNode dragged.id ⟨node.x, node.y⟩ = .ok moved ∧
          moved.finalizeNodeMove context dragged.id = .ok (edited, hit) ∧
          ∀ node ∈ edited.graph.nodes, node.id = dragged.id → node.cluster = hit

/-- Where no clusters are nested members hit their own clusters. -/
theorem HitsMembers.clusterAt?_eq_own {context : Context α} {session : Session α}
    (hits : HitsMembers context session)
    (roots : ∀ cluster ∈ session.graph.clusters, cluster.parent = none) {node : Node α}
    (node_mem : node ∈ session.graph.nodes) {id : String} (member : node.cluster = some id) :
    session.clusterAt? ⟨node.x, node.y⟩ = .ok (some id) := by
  obtain ⟨outlines, hit, -, hits_node, found, -⟩ := hits.added node node_mem id member
  rw [found, hits_node.eq_own (Outline.childIds_eq_nil_of_roots roots)]

/-- Without members there is nothing to hit. -/
theorem hitsMembers_of_floating (context : Context α) {session : Session α}
    (floating : ∀ node ∈ session.graph.nodes, ∀ id, node.cluster ≠ some id) :
    HitsMembers context session where
  added node node_mem id member := absurd member (floating node node_mem id)
  dropped node node_mem id member := absurd member (floating node node_mem id)

variable [HeldNumbers α]

/-- When everything is at home, members are hit as they should be. -/
theorem hitsMembers_of_settled (context : Context α) {session : Session α} {cells : Layout.Cells}
    {bound : ℕ} (settled : Outline.Settled bound cells.home session.graph.clusters
      session.graph.nodes)
    (separate : cells.Separate (session.graph.clusters.map (·.id)) bound) (large : 180 ≤ bound)
    (fits : Fits α (bound + 2 * (Outline.padding * (session.graph.clusters.length + 1) : ℕ)))
    (memberships : ∀ node ∈ session.graph.nodes, ∀ id, node.cluster = some id →
      id ∈ session.graph.clusters.map (·.id)) : HitsMembers context session := by
  constructor
  · intro node node_mem id member
    obtain ⟨outlines, drawn, hits⟩ := Outline.exists_hitsMember settled separate large fits
      (standardWidth : α) node_mem (memberships node node_mem id member) member
    refine ⟨outlines, _, drawn, hits, ?_, fun label name =>
      exists_addNode_ok context drawn label ⟨node.x, node.y⟩ name⟩
    rw [clusterAt?, drawn]
    rfl
  · intro node node_mem id member dragged dragged_mem different
    have others := settled.subset (List.filter_subset_self (p := (·.id != dragged.id)) _)
    have kept : node ∈ session.graph.nodes.filter fun other => other.id != dragged.id :=
      List.mem_filter.mpr ⟨node_mem, by simpa using different.symm⟩
    obtain ⟨outlines, drawn, hits⟩ := Outline.exists_hitsMember others separate large fits
      context.settings.canvas.width kept (memberships node node_mem id member) member
    exact ⟨outlines, _, drawn, hits, exists_finalizeNodeMove_ok context
      (List.mem_map_of_mem dragged_mem) ⟨node.x, node.y⟩ drawn⟩

/-- In an exact layout members are hit as they should be. -/
theorem LaidExactly.hitsMembers (context : Context α) {session : Session α}
    (laid : LaidExactly session) : HitsMembers context session := by
  by_cases filled : session.graph.clusters = []
  · apply hitsMembers_of_floating
    intro node node_mem id member
    have listed := laid.valid.memberships node node_mem id member
    rw [filled] at listed
    exact List.not_mem_nil listed
  · obtain ⟨cells, bound, exact⟩ := laid.exact filled
    exact hitsMembers_of_settled context (exact.packed.settled laid.valid.clusterIds exact.separate)
      exact.separate (exact.packed.le_bound filled exact.separate) exact.fits laid.valid.memberships

end Session
end ClusterDiagram
