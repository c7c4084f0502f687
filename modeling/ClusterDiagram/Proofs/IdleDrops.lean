import ClusterDiagram.Proofs.MemberHits
import ClusterDiagram.Proofs.RemainingMembers

/-!
# Drops without a move

When a node is dropped its cluster is settled anew, and the outlines are drawn without the node. So
a node that is dropped where it stands may leave its cluster: without it the outline is smaller, or
falls back to that of an empty cluster. Nothing else changes.
-/

namespace ClusterDiagram
namespace Session

open HeldNumbers Layout

variable {α : Type}

/-! ## Leaving a node out -/

theorem membersOf_filter (nodes : List (Node α)) (p : Node α → Bool) (id : String) :
    membersOf (nodes.filter p) id = (membersOf nodes id).filter p := by
  rw [membersOf, membersOf, List.filter_comm]

section Dropping

variable {session : Session α} (ids : (session.graph.nodes.map (·.id)).Nodup) {node : Node α}
  (node_mem : node ∈ session.graph.nodes)

include ids node_mem

/-- A node that is set to its own cluster is left as it is. -/
theorem changeNode_own_cluster :
    session.changeNode node.id (fun other => { other with cluster := node.cluster }) =
      session.graph := by
  have same : (session.graph.nodes.map fun other =>
      if other.id == node.id then { other with cluster := node.cluster } else other) =
        session.graph.nodes := by
    conv_rhs => rw [← List.map_id session.graph.nodes]
    apply List.map_congr_left
    intro other other_mem
    split
    · rename_i same_id
      obtain rfl := List.inj_on_of_nodup_map ids other_mem node_mem (beq_iff_eq.mp same_id)
      rfl
    · rfl
  rw [changeNode, withNodes, same]

/-- Leaving out a node that is no member leaves the members as they are. -/
theorem membersOf_filter_of_not_member {id : String} (elsewhere : node.cluster ≠ some id) :
    membersOf (session.graph.nodes.filter fun other => other.id != node.id) id =
      membersOf session.graph.nodes id := by
  rw [membersOf, membersOf, List.filter_filter]
  apply List.filter_congr
  intro other other_mem
  by_cases same_id : other.id = node.id
  · obtain rfl := List.inj_on_of_nodup_map ids other_mem node_mem same_id
    simpa using elsewhere
  · simp [same_id]

/-- Without one of its members a cluster is empty when it has no other. -/
theorem filter_membersOf_eq_nil_iff {id : String} (member : node.cluster = some id) :
    (membersOf session.graph.nodes id).filter (fun other => other.id != node.id) = [] ↔
      (membersOf session.graph.nodes id).length = 1 := by
  have member_mem : node ∈ membersOf session.graph.nodes id :=
    List.mem_filter.mpr ⟨node_mem, beq_iff_eq.mpr member⟩
  constructor
  · intro no_other
    have all_same : ∀ key ∈ (membersOf session.graph.nodes id).map (·.id), key = node.id := by
      simpa [List.filter_eq_nil_iff] using no_other
    have distinct : ((membersOf session.graph.nodes id).map (·.id)).Nodup :=
      ids.sublist (List.filter_sublist.map _)
    rw [List.eq_replicate_of_mem all_same, List.nodup_replicate, List.length_map] at distinct
    have filled := List.length_pos_of_mem member_mem
    omega
  · intro one
    obtain ⟨only, members_eq⟩ := List.length_eq_one_iff.mp one
    rw [members_eq] at member_mem ⊢
    obtain rfl := List.mem_singleton.mp member_mem
    simp

theorem requireNode_eq : session.requireNode node.id = .ok node := by
  rw [requireNode, find?_key_eq_some ids node_mem]

end Dropping

/-! ## Dropping a node where it stands -/

variable [Scalar α]

/-- What comes of dropping a node where it stands. -/
structure IdleDrop (context : Context α) (session : Session α) (node : Node α)
    (edited : Session α) (hit : Option String) : Prop where
  /-- The drop succeeds. -/
  done : session.finalizeNodeMove context node.id = .ok (edited, hit)
  /-- Only the cluster of the node is set. -/
  frame : edited = session.commit { session.graph with
    nodes := session.graph.nodes.map fun other =>
      if other.id == node.id then { other with cluster := hit } else other }
  /-- When the node stays in its cluster the diagram stays as it is. -/
  stays : hit = node.cluster → edited = session.commit session.graph
  /-- A floating node joins the cluster that is found at its place, if there is one. -/
  floating : node.cluster = none → session.clusterAt? ⟨node.x, node.y⟩ = .ok hit
  /-- A member stays in its cluster or leaves it for none. -/
  member : ∀ id, node.cluster = some id → hit = some id ∨ hit = none
  /-- The only member of a cluster stays when all clusters have one or two members. -/
  alone : ∀ id, node.cluster = some id → (membersOf session.graph.nodes id).length = 1 →
    (hit = some id ↔ ∀ cluster ∈ session.graph.clusters,
      (membersOf session.graph.nodes cluster.id).length = 1 ∨
        (membersOf session.graph.nodes cluster.id).length = 2)
  /-- One of several members stays when others stand level with it or beyond it on all sides. -/
  grouped : ∀ id, node.cluster = some id → (membersOf session.graph.nodes id).length ≠ 1 →
    (hit = some id ↔
      Flanks ((membersOf session.graph.nodes id).filter fun other => other.id != node.id) node)

section Sessions

variable (context : Context α) {session : Session α} {node : Node α}
  (node_mem : node ∈ session.graph.nodes)

include node_mem

/-- Without clusters there is nothing to join. -/
theorem idleDrop_of_no_clusters (valid : session.graph.Valid)
    (no_clusters : session.graph.clusters = []) :
    ∃ edited hit, IdleDrop context session node edited hit := by
  have drawn (nodes : List (Node α)) (canvasWidth : α) :
      Outline.ofClusters session.graph.clusters nodes canvasWidth = .ok [] := by
    rw [no_clusters]
    rfl
  have none_hit : Outline.clusterAt? ⟨node.x, node.y⟩ session.graph.clusters [] = none := by
    rw [no_clusters]
    rfl
  have no_member (id : String) (member : node.cluster = some id) : False := by
    have listed := valid.memberships node node_mem id member
    rw [no_clusters] at listed
    exact List.not_mem_nil listed
  have done := finalizeNodeMove_of_required context (requireNode_eq valid.nodeIds node_mem)
    (drawn _ _)
  rw [none_hit] at done
  refine ⟨_, _, done, rfl, ?_, ?_, fun id member => (no_member id member).elim,
    fun id member => (no_member id member).elim, fun id member => (no_member id member).elim⟩
  · intro floating
    rw [floating, changeNode_own_cluster valid.nodeIds node_mem]
  · intro _
    rw [clusterAt?, drawn]
    exact congrArg Except.ok none_hit

variable [HeldNumbers α] {cells : Cells} {bound : ℕ}

/-- The place of a member lies in the cell of its cluster. -/
theorem exists_atSlot_home (exact : Exact cells bound session.graph.clusters session.graph.nodes)
    (valid : session.graph.Valid) {id : String} (member : node.cluster = some id) :
    ∃ slot < (membersOf session.graph.nodes id).length,
      AtSlot cells id (membersOf session.graph.nodes id).length slot node ∧
      (cells.home id).Contains
        (cells.spotX id (membersOf session.graph.nodes id).length slot)
        (cells.spotY id (membersOf session.graph.nodes id).length slot) := by
  have id_mem := valid.memberships node node_mem id member
  obtain ⟨slot, slot_lt, at_slot⟩ := exact.packed.exists_atSlot id_mem node_mem member
  have settled := exact.packed.settled valid.clusterIds exact.separate
  obtain ⟨-, at_home⟩ := settled.members node node_mem id id_mem member
  rw [Outline.squareOf, number_eq at_slot.1, number_eq at_slot.2] at at_home
  exact ⟨slot, slot_lt, at_slot, Outline.contains_of_square_within
    ((Outline.Region.within_grow _ Outline.padding).trans at_home)⟩

/-- Without its only member a cluster takes the region of an empty cluster, which reaches the member
in small cells only. -/
theorem contains_regionAt_iff_of_one
    (exact : Exact cells bound session.graph.clusters session.graph.nodes)
    (valid : session.graph.Valid)
    (roots : ∀ cluster ∈ session.graph.clusters, cluster.parent = none) {id : String}
    (member : node.cluster = some id) {size slot : ℕ}
    (size_eq : (membersOf session.graph.nodes id).length = size) (slot_lt : slot < size)
    (one : size = 1) :
    (Outline.regionAt cells (session.graph.nodes.filter fun other => other.id != node.id)
        id).Contains (cells.spotX id size slot) (cells.spotY id size slot) ↔
      ∀ cluster ∈ session.graph.clusters,
        (membersOf session.graph.nodes cluster.id).length = 1 ∨
          (membersOf session.graph.nodes cluster.id).length = 2 := by
  subst one
  have no_other :
      membersOf (session.graph.nodes.filter fun other => other.id != node.id) id = [] := by
    rw [membersOf_filter]
    exact (filter_membersOf_eq_nil_iff valid.nodeIds node_mem member).mpr size_eq
  have region_eq : Outline.regionAt cells
      (session.graph.nodes.filter fun other => other.id != node.id) id =
        Outline.emptyRegion (cells.left id) (cells.top id) := by
    rw [Outline.regionAt, no_other]
    rfl
  obtain rfl : slot = 0 := by omega
  rw [region_eq, Cells.contains_centre_iff, exact.width_eq, exact.height_eq,
    cellExtents_le_iff valid.clusterIds roots]

/-- Without one of several members a cluster reaches that member when the others flank it. -/
theorem contains_regionAt_iff_of_several
    (exact : Exact cells bound session.graph.clusters session.graph.nodes)
    (valid : session.graph.Valid) {id : String} (member : node.cluster = some id)
    (several : (membersOf session.graph.nodes id).length ≠ 1) {slot : ℕ}
    (at_slot : AtSlot cells id (membersOf session.graph.nodes id).length slot node) :
    (Outline.regionAt cells (session.graph.nodes.filter fun other => other.id != node.id)
        id).Contains (cells.spotX id (membersOf session.graph.nodes id).length slot)
          (cells.spotY id (membersOf session.graph.nodes id).length slot) ↔
      Flanks ((membersOf session.graph.nodes id).filter fun other => other.id != node.id) node := by
  have id_mem := valid.memberships node node_mem id member
  rw [Outline.regionAt, membersOf_filter]
  refine contains_plainRegion_iff
    ((filter_membersOf_eq_nil_iff valid.nodeIds node_mem member).not.mpr several)
    (fun other other_mem => ?_) at_slot _
  obtain ⟨other_listed, own⟩ := List.mem_filter.mp (List.mem_of_mem_filter other_mem)
  obtain ⟨slot, -, other_at⟩ :=
    exact.packed.exists_atSlot id_mem other_listed (beq_iff_eq.mp own)
  exact ⟨slot, other_at⟩

/-- In an exact layout without nested clusters a node that is dropped where it stands stays in its
cluster as far as the cluster reaches it without the node. -/
theorem idleDrop_of_exact (exact : Exact cells bound session.graph.clusters session.graph.nodes)
    (valid : session.graph.Valid) (filled : session.graph.clusters ≠ [])
    (roots : ∀ cluster ∈ session.graph.clusters, cluster.parent = none) :
    ∃ edited hit, IdleDrop context session node edited hit := by
  let others := session.graph.nodes.filter fun other => other.id != node.id
  have settled : Outline.Settled bound cells.home session.graph.clusters others :=
    (exact.packed.settled valid.clusterIds exact.separate).subset (List.filter_subset_self _)
  obtain ⟨outlines, drawn, hits⟩ := Outline.exists_hit_of_flat settled exact.packed.anchored
    (exact.packed.le_bound filled exact.separate) exact.fits
    (Outline.childIds_eq_nil_of_roots roots) exact.separate
  have hit_of_member {id : String} (member : node.cluster = some id) :=
    hits id (valid.memberships node node_mem id member) ⟨node.x, node.y⟩
  refine ⟨_, _, finalizeNodeMove_of_required context (requireNode_eq valid.nodeIds node_mem)
    (drawn others _ fun _ _ => rfl), rfl, ?_, ?_, ?_, ?_, ?_⟩
  · intro stays
    rw [stays, changeNode_own_cluster valid.nodeIds node_mem]
  · -- the outlines are those of the session, since no cluster loses a member
    intro floating
    have same : ∀ id ∈ session.graph.clusters.map (·.id),
        membersOf session.graph.nodes id = membersOf others id := by
      intro id _
      exact (membersOf_filter_of_not_member valid.nodeIds node_mem (by simp [floating])).symm
    rw [clusterAt?, drawn _ _ same]
    rfl
  · intro id member
    obtain ⟨slot, -, at_slot, at_home⟩ := exists_atSlot_home node_mem exact valid member
    exact (hit_of_member member _ _ at_slot.1 at_slot.2 at_home).2
  · intro id member one
    obtain ⟨slot, slot_lt, at_slot, at_home⟩ := exists_atSlot_home node_mem exact valid member
    rw [(hit_of_member member _ _ at_slot.1 at_slot.2 at_home).1]
    exact contains_regionAt_iff_of_one node_mem exact valid roots member rfl slot_lt one
  · intro id member several
    obtain ⟨slot, -, at_slot, at_home⟩ := exists_atSlot_home node_mem exact valid member
    rw [(hit_of_member member _ _ at_slot.1 at_slot.2 at_home).1]
    exact contains_regionAt_iff_of_several node_mem exact valid member several at_slot

end Sessions

/-- Without nested clusters every drop without a move is settled. -/
theorem LaidExactly.exists_idleDrop [HeldNumbers α] (context : Context α) {session : Session α}
    (laid : LaidExactly session)
    (roots : ∀ cluster ∈ session.graph.clusters, cluster.parent = none) {node : Node α}
    (node_mem : node ∈ session.graph.nodes) :
    ∃ edited hit, IdleDrop context session node edited hit := by
  by_cases filled : session.graph.clusters = []
  · exact idleDrop_of_no_clusters context node_mem laid.valid filled
  · obtain ⟨cells, bound, exact⟩ := laid.exact filled
    exact idleDrop_of_exact context node_mem exact laid.valid filled roots

/-- After a fresh session is updated with a text without nested clusters, what comes of dropping a
node where it stands is known: over exact numbers with every text and on every canvas, with doubles
as long as the numbers of the layout can be held. -/
theorem localUpdate_idleDrop :
    (∀ [Lengths] (context : Context ℚ) (text : String) (drawn : ℕ),
      ∃ after, localUpdate context { drawn } text = (after, .ok 1) ∧
        ((∀ cluster ∈ after.graph.clusters, cluster.parent = none) →
          ∀ node ∈ after.graph.nodes, ∃ edited hit, IdleDrop context after node edited hit)) ∧
    ∀ (context : Context Float) (text : String) (drawn : ℕ),
      context.settings.canvas.width.isFinite = true →
      context.settings.canvas.height.isFinite = true →
      context.settings.canvas.width ≤ ((2 ^ 40 : ℕ) : Float) →
      context.settings.canvas.height ≤ ((2 ^ 40 : ℕ) : Float) → text.length ≤ 2 ^ 20 →
      ∃ after, localUpdate context { drawn } text = (after, .ok 1) ∧
        ((∀ cluster ∈ after.graph.clusters, cluster.parent = none) →
          ∀ node ∈ after.graph.nodes, ∃ edited hit, IdleDrop context after node edited hit) := by
  constructor
  · intro _ context text drawn
    obtain ⟨after, updated, laid⟩ := exists_laidExactly_rational context text drawn
    exact ⟨after, updated, fun roots _ node_mem => laid.exists_idleDrop context roots node_mem⟩
  · intro context text drawn width_finite height_finite width_moderate height_moderate short
    obtain ⟨after, updated, laid⟩ := exists_laidExactly_double width_finite height_finite
      width_moderate height_moderate short drawn
    exact ⟨after, updated, fun roots _ node_mem => laid.exists_idleDrop context roots node_mem⟩

/-- A node beside a cluster of three. -/
private def besideText : String :=
  "Node: F\nCluster: A\n  Node: a\n  Node: b\n  Node: c"

theorem localUpdate_idleDrop_beside :
    standardContext.settings.canvas.width.isFinite = true ∧
      standardContext.settings.canvas.height.isFinite = true ∧
      standardContext.settings.canvas.width ≤ ((2 ^ 40 : ℕ) : Float) ∧
      standardContext.settings.canvas.height ≤ ((2 ^ 40 : ℕ) : Float) ∧
      besideText.length ≤ 2 ^ 20 ∧
      ∃ after, localUpdate standardContext {} besideText = (after, .ok 1) ∧
        (∀ cluster ∈ after.graph.clusters, cluster.parent = none) ∧
        after.graph.nodes.map (·.cluster) = [none, some "a", some "a", some "a"] ∧
        ∀ node ∈ after.graph.nodes, ∃ edited hit,
          IdleDrop standardContext after node edited hit := by
  have width_moderate : standardContext.settings.canvas.width ≤ ((2 ^ 40 : ℕ) : Float) := by
    decide +kernel
  have height_moderate : standardContext.settings.canvas.height ≤ ((2 ^ 40 : ℕ) : Float) := by
    decide +kernel
  have short : besideText.length ≤ 2 ^ 20 := by decide
  obtain ⟨after, updated, drops⟩ := localUpdate_idleDrop.2 standardContext besideText 0 rfl rfl
    width_moderate height_moderate short
  have after_eq : (localUpdate standardContext {} besideText).1 = after := congrArg Prod.fst updated
  have roots : ∀ cluster ∈ after.graph.clusters, cluster.parent = none := by
    rw [← after_eq]
    decide +kernel
  have members : after.graph.nodes.map (·.cluster) = [none, some "a", some "a", some "a"] := by
    rw [← after_eq]
    decide +kernel
  exact ⟨rfl, rfl, width_moderate, height_moderate, short, after, updated, roots, members,
    drops roots⟩

/-- A cluster of two. -/
private def pairText : String :=
  "Cluster: A\n  Node: a\n  Node: b"

/-- Either of two members leaves its cluster when it is dropped where it stands. -/
theorem finalizeNodeMove_pair :
    let after := (localUpdate standardContext {} pairText).1
    (∀ cluster ∈ after.graph.clusters, cluster.parent = none) ∧
      after.graph.nodes.map (fun node => (node.label, node.cluster)) =
        [("a", some "a"), ("b", some "a")] ∧
      ∀ node ∈ after.graph.nodes,
        (after.finalizeNodeMove standardContext node.id).map (·.2) = .ok none := by
  decide +kernel

end Session
end ClusterDiagram
