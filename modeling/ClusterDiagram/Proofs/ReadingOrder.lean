import ClusterDiagram.Proofs.Reading
import ClusterDiagram.Proofs.Renaming
import ClusterDiagram.Proofs.Writable

/-!
# Reading what was written

The statements of a diagram, in the order in which they are written, are read as a copy of it:
the stack of open clusters holds the ancestors of the present one, and every reference of an edge
leads to the one node that it names.
-/

namespace ClusterDiagram
namespace Prompt

variable {α : Type}

/-! ## What a node line says -/

/-- A node without id and place, in a given cluster. -/
def contentIn (cluster : Option String) (node : Node α) : Node Unit where
  id := ""
  label := node.label
  name := node.name
  x := ()
  y := ()
  cluster := cluster

/-- What is read from some statements is appended to the diagram. -/
structure Adds (draft after : Draft α) (clusters : List (Cluster α)) (nodes : List (Node α)) :
    Prop where
  /-- The new clusters come last. -/
  clusters_eq : after.graph.clusters = draft.graph.clusters ++ clusters
  /-- The new nodes come last. -/
  nodes_eq : after.graph.nodes = draft.graph.nodes ++ nodes
  /-- The edges stay. -/
  edges_eq : after.graph.edges = draft.graph.edges

theorem Adds.refl (draft : Draft α) : Adds draft draft [] [] :=
  ⟨(List.append_nil _).symm, (List.append_nil _).symm, rfl⟩

theorem Adds.trans {draft middle after : Draft α} {clusters more : List (Cluster α)}
    {nodes others : List (Node α)} (first : Adds draft middle clusters nodes)
    (second : Adds middle after more others) :
    Adds draft after (clusters ++ more) (nodes ++ others) where
  clusters_eq := by rw [second.clusters_eq, first.clusters_eq, List.append_assoc]
  nodes_eq := by rw [second.nodes_eq, first.nodes_eq, List.append_assoc]
  edges_eq := second.edges_eq.trans first.edges_eq

private theorem dropWhile_of_dropWhile {β : Type} {p q : β → Bool} (elements : List β)
    {rest : List β} (dropped : elements.dropWhile q = rest)
    (weaker : ∀ element, q element = true → p element = true) :
    elements.dropWhile p = rest.dropWhile p := by
  induction elements with
  | nil =>
      rw [← dropped]
      rfl
  | cons element elements induction =>
      cases accepted : q element with
      | false =>
          rw [List.dropWhile_cons_of_neg (by simp [accepted])] at dropped
          rw [dropped]
      | true =>
          rw [List.dropWhile_cons_of_pos accepted] at dropped
          rw [List.dropWhile_cons_of_pos (weaker element accepted), induction dropped]

section Declarations

variable [Scalar α] {context : Context α} {draft after : Draft α} {graph : Graph α}

theorem declare_node {node : Node α}
    (done : draft.declare context (nodeStatement node) = .ok after) :
    ∃ added : Node α, Adds draft after [] [added] ∧ after.enclosing = draft.enclosing ∧
      contentIn added.cluster added = contentIn draft.innermost node := by
  obtain ⟨⟨copy, _⟩, added, rfl⟩ := ok_of_map done
  obtain ⟨label_eq, name_eq, cluster_eq, base, drawn, -, rfl⟩ := Draft.addNode_ok added
  refine ⟨copy, ⟨(List.append_nil _).symm, rfl, rfl⟩, rfl, ?_⟩
  rw [contentIn, contentIn, label_eq, name_eq, cluster_eq]

/-- Node lines add their nodes to the open cluster. -/
theorem declare_nodes {nodes : List (Node α)}
    (done : (nodes.map nodeStatement).foldlM (Draft.declare context) draft = .ok after) :
    ∃ added : List (Node α), Adds draft after [] added ∧ after.enclosing = draft.enclosing ∧
      (added.map fun node => contentIn node.cluster node) =
        nodes.map (contentIn draft.innermost) := by
  induction nodes generalizing draft with
  | nil =>
      cases done
      exact ⟨[], Adds.refl _, rfl, rfl⟩
  | cons node nodes induction =>
      obtain ⟨middle, first, rest⟩ := ok_of_foldlM_cons done
      obtain ⟨copy, adds, enclosing_eq, content_eq⟩ := declare_node first
      obtain ⟨added, more, rest_enclosing, rest_content⟩ := induction rest
      refine ⟨copy :: added, adds.trans more, rest_enclosing.trans enclosing_eq, ?_⟩
      have innermost_eq : middle.innermost = draft.innermost := by
        rw [Draft.innermost, enclosing_eq]
        rfl
      rw [List.map_cons, List.map_cons, content_eq, rest_content, innermost_eq]

omit [Scalar α] in
theorem adds_addCluster (draft : Draft α) (indent : Nat) (label : String) :
    ∃ cluster : Cluster α, Adds draft (draft.addCluster indent label) [cluster] [] ∧
      cluster.label = label ∧
      cluster.parent =
        (draft.enclosing.dropWhile fun above => indent ≤ above.2).head?.map (·.1) ∧
      (draft.addCluster indent label).enclosing = (cluster.id, indent) ::
        draft.enclosing.dropWhile fun above => indent ≤ above.2 :=
  ⟨_, ⟨rfl, (List.append_nil _).symm, rfl⟩, rfl, rfl, rfl⟩

/-- A cluster line closes what is indented as much and opens its cluster for the node lines that
follow. -/
theorem declare_block {entry : Cluster α × Nat}
    (done : (blockStatements graph entry).foldlM (Draft.declare context) draft = .ok after) :
    ∃ (cluster : Cluster α) (added : List (Node α)), Adds draft after [cluster] added ∧
      cluster.label = entry.1.label ∧
      cluster.parent =
        (draft.enclosing.dropWhile fun above => 2 * entry.2 ≤ above.2).head?.map (·.1) ∧
      after.enclosing = (cluster.id, 2 * entry.2) ::
        draft.enclosing.dropWhile (fun above => 2 * entry.2 ≤ above.2) ∧
      (added.map fun node => contentIn node.cluster node) =
        (graph.members entry.1.id).map (contentIn (some cluster.id)) := by
  obtain ⟨opened, first, rest⟩ := ok_of_foldlM_cons done
  obtain ⟨added, adds, enclosing_eq, content_eq⟩ := declare_nodes rest
  obtain ⟨cluster, opens, label_eq, parent_eq, opened_eq⟩ :=
    adds_addCluster draft (2 * entry.2) entry.1.label
  obtain rfl : draft.addCluster (2 * entry.2) entry.1.label = opened := Except.ok.inj first
  have innermost_eq : (draft.addCluster (2 * entry.2) entry.1.label).innermost =
      some cluster.id := by
    rw [Draft.innermost, opened_eq]
    rfl
  rw [innermost_eq] at content_eq
  exact ⟨cluster, added, opens.trans adds, label_eq, parent_eq, enclosing_eq.trans opened_eq,
    content_eq⟩

/-- A copy of a node without id and place. -/
def contentUnder (rename : Renaming) (node : Node α) : Node Unit :=
  contentIn (node.cluster.map rename.cluster) node

omit [Scalar α] in
theorem contentIn_of_mem_members {rename : Renaming} {id : String} :
    (graph.members id).map (contentIn (some (rename.cluster id))) =
      (graph.members id).map (contentUnder rename) := by
  apply List.map_congr_left
  intro node node_mem
  rw [contentUnder, (mem_members.mp node_mem).2]
  rfl

/-- Blocks that follow one another are read as clusters with their labels, each with copies of its
nodes, whichever ids the clusters are given. -/
theorem declare_blocks {draft after : Draft α} {entries : List (Cluster α × Nat)}
    (done : (entries.flatMap (blockStatements graph)).foldlM (Draft.declare context) draft =
      .ok after) :
    ∃ (clusters : List (Cluster α)) (nodes : List (Node α)), Adds draft after clusters nodes ∧
      clusters.map (·.label) = entries.map (·.1.label) ∧
      ∀ rename : Renaming,
        clusters.map (·.id) = entries.map (fun entry => rename.cluster entry.1.id) →
        (nodes.map fun node => contentIn node.cluster node) =
          (entries.flatMap fun entry => graph.members entry.1.id).map (contentUnder rename) := by
  induction entries generalizing draft with
  | nil =>
      cases done
      exact ⟨[], [], Adds.refl _, rfl, fun _ _ => rfl⟩
  | cons entry entries induction =>
      rw [List.flatMap_cons] at done
      obtain ⟨middle, first, rest⟩ := ok_of_foldlM_append done
      obtain ⟨cluster, members, adds, label_eq, -, -, members_eq⟩ := declare_block first
      obtain ⟨clusters, nodes, more, labels_eq, copied⟩ := induction rest
      refine ⟨cluster :: clusters, members ++ nodes, adds.trans more, ?_, ?_⟩
      · rw [List.map_cons, List.map_cons, label_eq, labels_eq]
      · intro rename ids
        rw [List.map_cons, List.map_cons, List.cons.injEq] at ids
        rw [ids.1, contentIn_of_mem_members] at members_eq
        rw [List.map_append, members_eq, copied rename ids.2, List.flatMap_cons, List.map_append]

/-- The blocks of a listing are read as copies of its clusters: whichever ids these are given, the
parents follow them. -/
theorem declare_listing (valid : graph.Valid) {depth : Nat} {vertices : List (Cluster α)}
    {listing : List (Cluster α × Nat)}
    (depthFirst : DepthFirst (·.id) (childrenOf graph.clusters) depth vertices listing)
    (done : (listing.flatMap (blockStatements graph)).foldlM (Draft.declare context) draft =
      .ok after) {base : List (String × Nat)}
    (base_eq : (draft.enclosing.dropWhile fun above => 2 * depth ≤ above.2) = base) :
    ∃ (clusters : List (Cluster α)) (nodes : List (Node α)), Adds draft after clusters nodes ∧
      (after.enclosing.dropWhile fun above => 2 * depth ≤ above.2) = base ∧
      clusters.length = listing.length ∧
      ∀ rename : Renaming,
        clusters.map (·.id) = listing.map (fun entry => rename.cluster entry.1.id) →
        (∀ vertex ∈ vertices, vertex.parent.map rename.cluster = base.head?.map (·.1)) →
        clusters.map Cluster.unplaced = listing.map fun entry => rename.ofCluster entry.1 := by
  induction depthFirst generalizing draft after base with
  | nil depth =>
      cases done
      exact ⟨[], [], Adds.refl _, base_eq, rfl, fun _ _ _ => rfl⟩
  | cons descend proceed below_read beside_read =>
      rename_i depth vertex vertices below beside
      rw [List.flatMap_cons, List.flatMap_append] at done
      obtain ⟨opened, block_done, done⟩ := ok_of_foldlM_append done
      obtain ⟨closed, below_done, beside_done⟩ := ok_of_foldlM_append done
      obtain ⟨cluster, members, adds, label_eq, parent_eq, opened_eq, -⟩ :=
        declare_block block_done
      simp only [base_eq] at parent_eq opened_eq
      have opened_base : (opened.enclosing.dropWhile fun above => 2 * (depth + 1) ≤ above.2) =
          (cluster.id, 2 * depth) :: base := by
        rw [opened_eq, List.dropWhile_cons_of_neg (by simp)]
      obtain ⟨inner, inner_nodes, inner_adds, inner_base, inner_length, inner_copied⟩ :=
        below_read below_done opened_base
      have closed_base : (closed.enclosing.dropWhile fun above => 2 * depth ≤ above.2) = base := by
        rw [dropWhile_of_dropWhile _ inner_base fun _ deep => by simp at deep ⊢; omega,
          List.dropWhile_cons_of_pos (by simp),
          ← dropWhile_of_dropWhile _ base_eq fun _ closed => closed, base_eq]
      obtain ⟨others, other_nodes, other_adds, other_base, other_length, other_copied⟩ :=
        beside_read beside_done closed_base
      refine ⟨cluster :: (inner ++ others), members ++ (inner_nodes ++ other_nodes),
        adds.trans (inner_adds.trans other_adds), other_base, ?_, ?_⟩
      · simp only [List.length_cons, List.length_append, inner_length, other_length]
      · intro rename ids parents
        rw [List.map_cons, List.map_cons, List.map_append, List.map_append, List.cons.injEq] at ids
        obtain ⟨id_eq, ids⟩ := ids
        obtain ⟨inner_ids, other_ids⟩ := List.append_inj ids (by simp [inner_length])
        rw [List.forall_mem_cons] at parents
        have children_parents : ∀ child ∈ childrenOf graph.clusters vertex.id,
            child.parent.map rename.cluster =
              ((cluster.id, 2 * depth) :: base).head?.map (·.1) := by
          intro child child_mem
          rw [((mem_childrenOf valid).mp child_mem).2, id_eq]
          rfl
        have cluster_eq : cluster.unplaced = rename.ofCluster vertex := by
          rw [Cluster.unplaced, Renaming.ofCluster, id_eq, label_eq, parent_eq, parents.1]
        rw [List.map_cons, List.map_append, cluster_eq,
          inner_copied rename inner_ids children_parents,
          other_copied rename other_ids parents.2, List.map_cons, List.map_append]

end Declarations

theorem map_unplaced_eq {rename : Renaming} {copies nodes : List (Node α)}
    (ids : copies.map (·.id) = nodes.map fun node => rename.node node.id)
    (contents : (copies.map fun node => contentIn node.cluster node) =
      nodes.map (contentUnder rename)) :
    copies.map Node.unplaced = nodes.map rename.ofNode := by
  induction copies generalizing nodes with
  | nil =>
      cases nodes with
      | nil => rfl
      | cons node nodes => cases ids
  | cons copy copies induction =>
      cases nodes with
      | nil => cases ids
      | cons node nodes =>
          rw [List.map_cons, List.map_cons, List.cons.injEq] at ids contents
          obtain ⟨label_eq, name_eq, cluster_eq⟩ : copy.label = node.label ∧
              copy.name = node.name ∧ copy.cluster = node.cluster.map rename.cluster := by
            simpa [contentUnder, contentIn] using contents.1
          rw [List.map_cons, List.map_cons, induction ids.2 contents.2, Node.unplaced,
            Renaming.ofNode, ids.1, label_eq, name_eq, cluster_eq]

section Edges

variable [Scalar α] {context : Context α} {draft after : Draft α} {graph : Graph α}

section Contents

variable (clusterIds : (graph.clusters.map (·.id)).Nodup)
  (memberships : ∀ node ∈ graph.nodes, ∀ id, node.cluster = some id →
    id ∈ graph.clusters.map (·.id))

include memberships in
omit [Scalar α] in
/-- A floating node lies in no cluster. -/
theorem cluster_eq_none_of_floating {node : Node α} (node_mem : node ∈ floating graph) :
    node.cluster = none := by
  obtain ⟨listed, outside⟩ := mem_floating_iff.mp node_mem
  cases cluster_eq : node.cluster with
  | none => rfl
  | some id =>
      obtain ⟨cluster, cluster_mem, rfl⟩ := List.mem_map.mp (memberships node listed id cluster_eq)
      exact absurd cluster_eq (outside cluster cluster_mem)

include clusterIds memberships

/-- However the clusters are nested, the cluster and node lines of a diagram are read as clusters
with the same labels and nodes in the same places of the text. -/
theorem declare_contents {drawn : Nat} {after : Draft α}
    (done : (declarations graph).foldlM (Draft.declare context) { drawn } = .ok after) :
    after.graph.edges = [] ∧
      after.graph.clusters.map (·.label) = (inWritingOrder graph).clusters.map (·.label) ∧
      ∃ rename : Renaming,
        after.graph.clusters.map (·.id) =
            (inWritingOrder graph).clusters.map (fun cluster => rename.cluster cluster.id) ∧
          (after.graph.nodes.map fun node => contentIn node.cluster node) =
            (inWritingOrder graph).nodes.map (contentUnder rename) := by
  obtain ⟨middle, floating_done, blocks_done⟩ := ok_of_foldlM_append done
  obtain ⟨floats, adds, -, floats_eq⟩ := declare_nodes floating_done
  obtain ⟨clusters, members, more, labels_eq, copied⟩ := declare_blocks blocks_done
  have adds := adds.trans more
  have clusters_eq : after.graph.clusters = clusters := adds.clusters_eq
  have nodes_eq : after.graph.nodes = floats ++ members := adds.nodes_eq
  have order_ids : ((inWritingOrder graph).clusters.map (·.id)).Nodup :=
    ((clusterOrder_perm clusterIds).map _).nodup_iff.mpr clusterIds
  obtain ⟨rename, rename_eq⟩ : ∃ f : String → String,
      ((inWritingOrder graph).clusters.map (·.id)).map f = clusters.map (·.id) := by
    apply exists_map_eq order_ids
    simpa [inWritingOrder] using (congrArg List.length labels_eq).symm
  have ids : clusters.map (·.id) = (inWritingOrder graph).clusters.map fun cluster =>
      (Renaming.mk rename id).cluster cluster.id := by
    rw [← rename_eq, List.map_map]
    rfl
  have member_copies := copied (Renaming.mk rename id) (by rw [ids, inWritingOrder, List.map_map]; rfl)
  have float_copies : (floating graph).map (contentIn none) =
      (floating graph).map (contentUnder (Renaming.mk rename id)) := by
    apply List.map_congr_left
    intro float float_mem
    rw [contentUnder, cluster_eq_none_of_floating memberships float_mem]
    rfl
  refine ⟨adds.edges_eq, ?_, Renaming.mk rename id, clusters_eq ▸ ids, ?_⟩
  · rw [clusters_eq, labels_eq, inWritingOrder, List.map_map]
    rfl
  · rw [nodes_eq, List.map_append, floats_eq, member_copies, inWritingOrder, List.map_append,
      ← float_copies]
    rfl

end Contents

/-- Under the ids that its clusters are given, a valid diagram keeps its parents. -/
theorem declare_parents (valid : graph.Valid) {drawn : Nat}
    (done : (declarations graph).foldlM (Draft.declare context) { drawn } = .ok after)
    {rename : Renaming} (ids : after.graph.clusters.map (·.id) =
      (inWritingOrder graph).clusters.map fun cluster => rename.cluster cluster.id) :
    after.graph.clusters.map Cluster.unplaced =
      (inWritingOrder graph).clusters.map rename.ofCluster := by
  obtain ⟨depthFirst, -⟩ := depthFirst_clusterOrder valid
  obtain ⟨middle, floating_done, listing_done⟩ := ok_of_foldlM_append done
  obtain ⟨floats, adds, enclosing_eq, -⟩ := declare_nodes floating_done
  have nothing_open : (middle.enclosing.dropWhile fun above => 2 * 0 ≤ above.2) = [] := by
    rw [enclosing_eq]
    rfl
  obtain ⟨clusters, members, more, -, -, copied⟩ :=
    declare_listing valid depthFirst listing_done nothing_open
  have clusters_eq : after.graph.clusters = clusters := (adds.trans more).clusters_eq
  have roots : ∀ root ∈ rootsOf graph.clusters,
      root.parent.map rename.cluster = ([] : List (String × Nat)).head?.map (·.1) := by
    intro root root_mem
    rw [((mem_rootsOf valid).mp root_mem).2]
    rfl
  rw [inWritingOrder, List.map_map] at ids ⊢
  rw [clusters_eq] at ids ⊢
  exact copied rename ids roots

/-- The cluster and node lines of a diagram are read as a copy of its clusters and nodes. -/
theorem declare_declarations (valid : graph.Valid) {drawn : Nat}
    (done : (declarations graph).foldlM (Draft.declare context) { drawn } = .ok after) :
    after.graph.edges = [] ∧ ∃ rename : Renaming,
      after.graph.clusters.map Cluster.unplaced =
          (inWritingOrder graph).clusters.map rename.ofCluster ∧
        after.graph.nodes.map Node.unplaced = (inWritingOrder graph).nodes.map rename.ofNode := by
  obtain ⟨edges_eq, -, rename, ids, contents⟩ :=
    declare_contents valid.clusterIds valid.memberships done
  have copies := declare_parents valid done ids
  -- the ids that the clusters were given are known, those of the nodes complete the renaming
  have node_ids : ((inWritingOrder graph).nodes.map (·.id)).Nodup :=
    ((perm_nodes_inWritingOrder valid).map _).nodup_iff.mpr valid.nodeIds
  obtain ⟨node, node_eq⟩ : ∃ f : String → String,
      ((inWritingOrder graph).nodes.map (·.id)).map f = after.graph.nodes.map (·.id) := by
    apply exists_map_eq node_ids
    simpa using (congrArg List.length contents).symm
  refine ⟨edges_eq, Renaming.mk rename.cluster node, copies, map_unplaced_eq ?_ contents⟩
  rw [← node_eq, List.map_map]
  rfl

omit [Scalar α] in
/-- A property of labels and aliases that holds of one node only finds its copy. -/
theorem find?_copy (writable : graph.Writable) {rename : Renaming} {copies : List (Node α)}
    (copied : copies.map Node.unplaced = (inWritingOrder graph).nodes.map rename.ofNode)
    (distinct : (copies.map (·.id)).Nodup) {node : Node α} (node_mem : node ∈ graph.nodes)
    {p : Node α → Bool}
    (reads : ∀ first second : Node α, first.label = second.label → first.name = second.name →
      p first = p second)
    (accepts : ∀ other ∈ graph.nodes, p other = true ↔ other = node) :
    ∃ copy, copies.find? p = some copy ∧ copy.id = rename.node node.id := by
  have whole := perm_nodes_inWritingOrder writable.valid
  obtain ⟨copy, copy_mem, copy_eq⟩ := exists_mem_of_map_eq copied.symm (whole.mem_iff.mpr node_mem)
  have id_eq : copy.id = rename.node node.id := congrArg (·.id) copy_eq
  have label_eq : copy.label = node.label := congrArg (·.label) copy_eq
  have name_eq : copy.name = node.name := congrArg (·.name) copy_eq
  refine ⟨copy, ?_, id_eq⟩
  apply find?_eq_some_of_unique copy_mem
  · rw [reads copy node label_eq name_eq]
    exact (accepts node node_mem).mpr rfl
  · intro other other_mem accepted
    obtain ⟨original, original_mem, original_eq⟩ := exists_mem_of_map_eq copied other_mem
    have original_label : original.label = other.label := congrArg (·.label) original_eq
    have original_name : original.name = other.name := congrArg (·.name) original_eq
    rw [← reads original other original_label original_name] at accepted
    obtain rfl := (accepts original (whole.mem_iff.mp original_mem)).mp accepted
    have other_id : rename.node original.id = other.id := congrArg (·.id) original_eq
    exact List.inj_on_of_nodup_map distinct other_mem copy_mem (other_id.symm.trans id_eq.symm)

/-- A reference of an edge leads to the copy of the node that it names, whether it is known from
before or not. -/
theorem resolve_reference (writable : graph.Writable) {rename : Renaming}
    (known : context.nodes ⊆ graph.nodes)
    (copied : draft.graph.nodes.map Node.unplaced = (inWritingOrder graph).nodes.map rename.ofNode)
    (distinct : draft.Identified) {node : Node α} (node_mem : node ∈ graph.nodes) :
    ∃ copy, draft.resolve context node.reference = .ok (copy, draft) ∧
      copy.id = rename.node node.id := by
  have matches_reads : ∀ key, ∀ first second : Node α, first.label = second.label →
      first.name = second.name → matchesKey key first = matchesKey key second := by
    intro key first second label_eq name_eq
    rw [matchesKey, matchesKey, label_eq, name_eq]
  obtain ⟨copy, found, id_eq⟩ := find?_copy writable copied distinct.nodes.1 node_mem
    (matches_reads _) fun other other_mem => writable.matchesKey_iff node_mem other_mem
  rw [Draft.resolve, resolveReference]
  cases before : context.nodes.find? (matchesKey (Text.foldKey node.reference)) with
  | none =>
      simp only [found]
      exact ⟨copy, rfl, id_eq⟩
  | some earlier =>
      have earlier_mem := known (List.mem_of_find?_eq_some before)
      obtain rfl := (writable.matchesKey_iff node_mem earlier_mem).mp (List.find?_some before)
      obtain ⟨namesake, namesake_found, namesake_id⟩ := find?_copy writable copied
        distinct.nodes.1 earlier_mem (p := fun other => other.key == earlier.key)
        (fun first second label_eq name_eq => by simp only [Node.key, label_eq, name_eq])
        fun other other_mem => by rw [beq_iff_eq, writable.key_eq_iff earlier_mem other_mem]
      simp only [namesake_found]
      exact ⟨namesake, rfl, namesake_id⟩

/-- An edge line is read as a copy of its edge. -/
theorem connect_edge (writable : graph.Writable) {rename : Renaming}
    (known : context.nodes ⊆ graph.nodes)
    (copied : draft.graph.nodes.map Node.unplaced = (inWritingOrder graph).nodes.map rename.ofNode)
    (distinct : draft.Identified) {edge : Edge} (edge_mem : edge ∈ graph.edges)
    (done : draft.connect context (edgeStatement graph.nodes edge) = .ok after) :
    after.graph.clusters = draft.graph.clusters ∧ after.graph.nodes = draft.graph.nodes ∧
      after.graph.edges.map Edge.unnamed =
        draft.graph.edges.map Edge.unnamed ++ [rename.ofEdge edge] := by
  have nodeIds := writable.valid.nodeIds
  obtain ⟨source_mem, target_mem⟩ := writable.valid.endpoints edge edge_mem
  obtain ⟨source, source_mem, source_eq⟩ := List.mem_map.mp source_mem
  obtain ⟨target, target_mem, target_eq⟩ := List.mem_map.mp target_mem
  obtain ⟨source_copy, source_found, source_id⟩ :=
    resolve_reference writable known copied distinct source_mem
  obtain ⟨target_copy, target_found, target_id⟩ :=
    resolve_reference writable known copied distinct target_mem
  have label_eq := Attributes.findEither?_label (writable.edgeLabels edge edge_mem)
  have style_eq := Attributes.ofText?_findEither?_arrow edge
  rw [edgeStatement, ← source_eq, ← target_eq, referenceTo_eq nodeIds source_mem,
    referenceTo_eq nodeIds target_mem] at done
  simp only [Draft.connect, source_found, target_found, bind, Except.bind, pure,
    Except.pure] at done
  cases done
  refine ⟨rfl, rfl, ?_⟩
  rw [List.map_append, List.map_singleton, Edge.unnamed, Renaming.ofEdge, ← source_eq, ← target_eq,
    ← source_id, ← target_id, label_eq, style_eq]
  rfl

/-- The edge lines are read as copies of the edges, in order. -/
theorem connect_edges (writable : graph.Writable) {rename : Renaming}
    (known : context.nodes ⊆ graph.nodes)
    (copied : draft.graph.nodes.map Node.unplaced = (inWritingOrder graph).nodes.map rename.ofNode)
    (distinct : draft.Identified) {edges : List Edge} (within : edges ⊆ graph.edges)
    (done : (edges.map (edgeStatement graph.nodes)).foldlM (Draft.connect context) draft =
      .ok after) :
    after.graph.clusters = draft.graph.clusters ∧ after.graph.nodes = draft.graph.nodes ∧
      after.graph.edges.map Edge.unnamed =
        draft.graph.edges.map Edge.unnamed ++ edges.map rename.ofEdge := by
  induction edges generalizing draft with
  | nil =>
      cases done
      exact ⟨rfl, rfl, (List.append_nil _).symm⟩
  | cons edge edges induction =>
      rw [List.cons_subset] at within
      obtain ⟨middle, first, rest⟩ := ok_of_foldlM_cons done
      obtain ⟨clusters_eq, nodes_eq, edges_eq⟩ :=
        connect_edge writable known copied distinct within.1 first
      obtain ⟨rest_clusters, rest_nodes, rest_edges⟩ :=
        induction (nodes_eq ▸ copied) (distinct.grows (Draft.grows_of_connect first)) within.2 rest
      refine ⟨rest_clusters.trans clusters_eq, rest_nodes.trans nodes_eq, ?_⟩
      rw [rest_edges, edges_eq, List.append_assoc, List.map_cons, List.singleton_append]

theorem connect_declaration {statement : Statement} (statement_mem : statement ∈ declarations graph)
    (draft : Draft α) : draft.connect context statement = .ok draft := by
  rw [declarations, List.mem_append, List.mem_map, List.mem_flatMap] at statement_mem
  rcases statement_mem with ⟨node, -, rfl⟩ | ⟨entry, -, statement_mem⟩
  · rfl
  · rcases List.mem_cons.mp statement_mem with rfl | statement_mem
    · rfl
    · obtain ⟨node, -, rfl⟩ := List.mem_map.mp statement_mem
      rfl

/-- A text with the cluster and node lines of a diagram and some edge lines is read in two rounds:
the clusters and nodes are declared first, then the edge lines are taken in. -/
theorem declared_of_read {text : String} {edges : List Edge}
    (said : Statement.ofText text =
      declarations graph ++ edges.map (edgeStatement graph.nodes))
    {drawn next : Nat} {copy : Graph α} (done : read context text drawn = .ok (copy, next)) :
    ∃ declared draft : Draft α, declared.Identified ∧
      (declarations graph).foldlM (Draft.declare context) { drawn } = .ok declared ∧
      (edges.map (edgeStatement graph.nodes)).foldlM (Draft.connect context) declared =
        .ok draft ∧
      draft.graph = copy := by
  obtain ⟨declared, draft, declare_done, connect_done, rfl⟩ := rounds_of_read done
  have identified : declared.Identified :=
    (Draft.identified_start drawn).grows
      (Draft.grows_of_foldlM_declare (fun _ _ => Statement.slug_ne_empty_of_mem) declare_done)
  rw [said] at declare_done connect_done
  obtain ⟨middle, declarations_done, edges_idle⟩ := ok_of_foldlM_append declare_done
  obtain rfl : middle = declared := by
    rw [foldlM_of_idle] at edges_idle
    · exact Except.ok.inj edges_idle
    · intro statement statement_mem draft
      obtain ⟨edge, -, rfl⟩ := List.mem_map.mp statement_mem
      rfl
  obtain ⟨start, declarations_idle, edges_done⟩ := ok_of_foldlM_append connect_done
  obtain rfl : middle = start := by
    rw [foldlM_of_idle fun statement statement_mem =>
      connect_declaration statement_mem] at declarations_idle
    exact Except.ok.inj declarations_idle
  exact ⟨middle, draft, identified, declarations_done, edges_done, rfl⟩

/-- The prompt of a diagram that is spelled out by its lines is read in two rounds: its clusters and
nodes are copied first, then its edge lines are taken in. -/
theorem exists_declared_of_read (spelled : Spelled graph) {drawn next : Nat} {copy : Graph α}
    (done : read context (write graph) drawn = .ok (copy, next)) :
    ∃ declared draft : Draft α, declared.Identified ∧ declared.graph.edges = [] ∧
      (∃ rename : Renaming,
        declared.graph.clusters.map Cluster.unplaced =
            (inWritingOrder graph).clusters.map rename.ofCluster ∧
          declared.graph.nodes.map Node.unplaced =
            (inWritingOrder graph).nodes.map rename.ofNode) ∧
      (graph.edges.map (edgeStatement graph.nodes)).foldlM (Draft.connect context) declared =
        .ok draft ∧
      draft.graph = copy := by
  obtain ⟨declared, draft, identified, declarations_done, edges_done, graph_eq⟩ :=
    declared_of_read (ofText_write spelled) done
  obtain ⟨no_edges, copied⟩ := declare_declarations spelled.valid declarations_done
  exact ⟨declared, draft, identified, no_edges, copied, edges_done, graph_eq⟩

/-- A written diagram is read as a copy of itself, if it is read at all, against no known nodes or
against some of its own. -/
theorem copied_of_read (writable : graph.Writable) (known : context.nodes ⊆ graph.nodes)
    {drawn next : Nat} {copy : Graph α}
    (done : read context (write graph) drawn = .ok (copy, next)) :
    ∃ rename, (inWritingOrder graph).CopiedBy rename copy := by
  obtain ⟨declared, draft, identified, no_edges, ⟨rename, clusters_copied, nodes_copied⟩,
    edges_done, rfl⟩ := exists_declared_of_read (spelled_of_writable writable) done
  obtain ⟨clusters_eq, nodes_eq, edges_eq⟩ := connect_edges writable known nodes_copied
    identified (List.Subset.refl _) edges_done
  rw [no_edges] at edges_eq
  exact ⟨rename, clusters_eq ▸ clusters_copied, nodes_eq ▸ nodes_copied, edges_eq⟩

end Edges

end Prompt
end ClusterDiagram
