import ClusterDiagram.Proofs.Writable

/-!
# Every line of a written diagram

A diagram may have anything wrong with it but repeated ids: a parent may be the cluster itself, lead
in circles or be unknown, and nodes and edges may refer to nothing. Still each cluster has one line,
right before the lines of its nodes, every other node comes before all clusters, and every edge
between two nodes has one line at the end.
-/

namespace ClusterDiagram
namespace Prompt

variable {α : Type} {graph : Graph α}

/-! ## Edge lines -/

/-- The line of an edge between two nodes. -/
def edgeText (source target : Node α) (edge : Edge) : String :=
  source.reference ++ " -> " ++ target.reference ++ " [arrow=" ++ edge.style.name ++
    (match edge.label with
      | some label => if label.isEmpty then "" else ", label=" ++ Attributes.quote label
      | none => "") ++ "]"

/-- Whether a line is the line of an edge, with the references of the nodes at its ends. -/
def IsEdgeLine (nodes : List (Node α)) (edge : Edge) (line : String) : Prop :=
  ∃ source ∈ nodes, ∃ target ∈ nodes, source.id = edge.source ∧ target.id = edge.target ∧
    line = edgeText source target edge

/-- The edges whose ends are both nodes. -/
def joining (graph : Graph α) : List Edge :=
  graph.edges.filter fun edge =>
    edge.source ∈ graph.nodes.map (·.id) ∧ edge.target ∈ graph.nodes.map (·.id)

theorem exists_lastWith?_iff {nodes : List (Node α)} {id : String} :
    (∃ node, Node.lastWith? id nodes = some node) ↔ id ∈ nodes.map (·.id) := by
  rw [← Option.isSome_iff_exists, Node.lastWith?, List.find?_isSome]
  simp

/-- An edge has a line exactly when both of its ends are nodes. -/
theorem edgeLine?_cases (nodes : List (Node α)) (edge : Edge) :
    (edge.source ∈ nodes.map (·.id) ∧ edge.target ∈ nodes.map (·.id)) ∧
        (∃ line, edgeLine? nodes edge = some line ∧ IsEdgeLine nodes edge line) ∨
      ¬ (edge.source ∈ nodes.map (·.id) ∧ edge.target ∈ nodes.map (·.id)) ∧
        edgeLine? nodes edge = none := by
  rw [← exists_lastWith?_iff, ← exists_lastWith?_iff, edgeLine?]
  cases source_found : Node.lastWith? edge.source nodes with
  | none => simp
  | some source =>
      cases target_found : Node.lastWith? edge.target nodes with
      | none => simp
      | some target =>
          obtain ⟨source_mem, source_id⟩ := Node.of_lastWith? source_found
          obtain ⟨target_mem, target_id⟩ := Node.of_lastWith? target_found
          refine Or.inl ⟨⟨⟨source, rfl⟩, target, rfl⟩, _, rfl, ?_⟩
          exact ⟨source, source_mem, target, target_mem, source_id, target_id, rfl⟩

/-- The edges between nodes have one line each, in their order. -/
theorem forall₂_edgeLines (graph : Graph α) :
    List.Forall₂ (IsEdgeLine graph.nodes) (joining graph)
      (graph.edges.filterMap (edgeLine? graph.nodes)) := by
  rw [joining]
  induction graph.edges with
  | nil => exact .nil
  | cons edge edges induction =>
      rcases edgeLine?_cases graph.nodes edge with ⟨joins, line, line_eq, is_line⟩ | ⟨lacks, none⟩
      · rw [List.filter_cons_of_pos (by simpa using joins), List.filterMap_cons_some line_eq]
        exact .cons is_line induction
      · rw [List.filter_cons_of_neg (by simpa using lacks), List.filterMap_cons_none none]
        exact induction

/-! ## Blocks -/

/-- A cluster at a depth, with the nodes that follow its line. -/
structure Block (α : Type) where
  /-- The cluster. -/
  cluster : Cluster α
  /-- The level of indentation. -/
  depth : ℕ
  /-- The nodes behind it. -/
  members : List (Node α)

/-- The line of a cluster and the lines of its nodes, one level deeper. -/
def Block.lines (block : Block α) : List String :=
  clusterText block.cluster.label block.depth ::
    block.members.map fun node => nodeText node.label node.name (block.depth + 1)

/-- Blocks of clusters that hold all of a diagram, with the nodes that are left outside. -/
structure Covers (graph : Graph α) (outside : List (Node α)) (blocks : List (Block α)) : Prop where
  /-- Every cluster has one block. -/
  clusters : (blocks.map (·.cluster)).Perm graph.clusters
  /-- Every node stands outside once or in one block once. -/
  nodes : (outside ++ blocks.flatMap (·.members)).Perm graph.nodes
  /-- A block holds the nodes of its cluster. -/
  members : ∀ block ∈ blocks, ∀ node ∈ block.members, node.cluster = some block.cluster.id
  /-- Outside are nodes that lie in no cluster of the diagram. -/
  outside : ∀ node ∈ outside, ∀ cluster ∈ graph.clusters, node.cluster ≠ some cluster.id
  /-- An indented cluster comes after its parent and is one level deeper. -/
  depths : ∀ before block after, blocks = before ++ block :: after → block.depth = 0 ∨
    ∃ above ∈ before, block.cluster.parent = some above.cluster.id ∧ block.depth = above.depth + 1

/-- The block of a cluster. -/
def blockOf (graph : Graph α) (entry : Cluster α × ℕ) : Block α :=
  ⟨entry.1, entry.2, graph.members entry.1.id⟩

theorem depth_of_clusterOrder {before after : List (Cluster α × ℕ)} {entry : Cluster α × ℕ}
    (order_eq : clusterOrder graph = before ++ entry :: after) :
    entry.2 = 0 ∨ ∃ above ∈ before, entry.1.parent = some above.1.id ∧
      entry.2 = above.2 + 1 := by
  rcases origin_walk order_eq with first | ⟨above, above_mem, child, depth_eq⟩
  · obtain ⟨cluster, -, rfl⟩ := List.mem_map.mp first
    exact Or.inl rfl
  · have linked := (Bool.and_eq_true_iff.mp (List.mem_filter.mp child).2).2
    exact Or.inr ⟨above, above_mem, by simpa using linked, depth_eq⟩

/-- The blocks of the clusters hold all of the diagram. -/
theorem covers_clusterOrder (clusterIds : (graph.clusters.map (·.id)).Nodup)
    (nodeIds : (graph.nodes.map (·.id)).Nodup) :
    Covers graph (floating graph) ((clusterOrder graph).map (blockOf graph)) where
  clusters := by
    rw [List.map_map]
    exact clusterOrder_perm clusterIds
  nodes := by
    rw [List.flatMap_map]
    exact nodes_inWritingOrder_perm clusterIds nodeIds
  members := by
    intro block block_mem node node_mem
    obtain ⟨entry, -, rfl⟩ := List.mem_map.mp block_mem
    exact (mem_members.mp node_mem).2
  outside := fun node node_mem => (mem_floating_iff.mp node_mem).2
  depths := by
    intro before block after split
    obtain ⟨front, back, order_eq, rfl, back_eq⟩ := List.map_eq_append_iff.mp split
    obtain ⟨entry, rest, rfl, rfl, rfl⟩ := List.map_eq_cons_iff.mp back_eq
    rcases depth_of_clusterOrder order_eq with top | ⟨above, above_mem, linked⟩
    · exact Or.inl top
    · exact Or.inr ⟨blockOf graph above, List.mem_map_of_mem above_mem, linked⟩

/-- Of a diagram whose clusters and nodes have distinct ids, whatever else may be wrong with it,
every cluster and every node is written on one line, a node right behind its cluster or else before
all clusters, and so is, in order, every edge between two nodes. -/
theorem lines_whole (clusterIds : (graph.clusters.map (·.id)).Nodup)
    (nodeIds : (graph.nodes.map (·.id)).Nodup) :
    ∃ outside blocks edgeLines,
      lines graph = outside.map (fun node => nodeText node.label node.name 0) ++
        blocks.flatMap Block.lines ++ edgeLines ∧
      Covers graph outside blocks ∧
      List.Forall₂ (IsEdgeLine graph.nodes) (joining graph) edgeLines := by
  refine ⟨floating graph, (clusterOrder graph).map (blockOf graph), _, ?_,
    covers_clusterOrder clusterIds nodeIds, forall₂_edgeLines graph⟩
  rw [lines_eq, List.flatMap_map]
  rfl

/-- A cluster inside itself, two inside each other, one below them and one below nothing, a node and
an edge that refer to nothing. -/
private def broken : Graph Float :=
  { clusters := [⟨"low", "Low", some "left", none, none⟩, ⟨"self", "Self", some "self", none, none⟩,
      ⟨"left", "Left", some "right", none, none⟩, ⟨"right", "Right", some "left", none, none⟩,
      ⟨"lost", "Lost", some "gone", none, none⟩]
    nodes := [⟨"a", "A", none, 0, 0, some "left"⟩, ⟨"b", "B", some "bee", 0, 0, some "gone"⟩,
      ⟨"c", "A", none, 0, 0, some "low"⟩, ⟨"d", "D", none, 0, 0, none⟩]
    edges := [⟨"e", "b", "a", some "x", .dashed⟩, ⟨"e", "a", "gone", none, .solid⟩,
      ⟨"f", "d", "d", none, .double⟩] }

theorem lines_whole_broken :
    (broken.clusters.map (·.id)).Nodup ∧ (broken.nodes.map (·.id)).Nodup ∧
      lines broken = ["Node: B [name=bee]", "Node: D", "Cluster: Self", "Cluster: Lost",
        "Cluster: Low", "  Node: A", "Cluster: Left", "  Node: A", "  Cluster: Right",
        "bee -> A [arrow=dashed, label='x']", "D -> D [arrow=double]"] ∧
      ∃ outside blocks edgeLines,
        lines broken = outside.map (fun node => nodeText node.label node.name 0) ++
          blocks.flatMap Block.lines ++ edgeLines ∧
        Covers broken outside blocks ∧
        List.Forall₂ (IsEdgeLine broken.nodes) (joining broken) edgeLines := by
  have clusterIds : (broken.clusters.map (·.id)).Nodup := by decide
  have nodeIds : (broken.nodes.map (·.id)).Nodup := by decide
  exact ⟨clusterIds, nodeIds, by decide +kernel, lines_whole clusterIds nodeIds⟩

end Prompt
end ClusterDiagram
