import ClusterDiagram.Proofs.FiniteCanvas
import ClusterDiagram.Proofs.LinedTexts
import ClusterDiagram.Proofs.ReadValidity
import ClusterDiagram.Proofs.ReadingOrder

/-!
# Prompts of diagrams that were read

A prompt holds most diagrams that can be read. It cannot hold a bracket in the label of a node, a
node without label and alias, an alias that needs quotes, or a reference that an edge line cuts in
another place. Without these, clusters and nodes come back, and each edge leads to the first nodes
that answer to its references.
-/

namespace ClusterDiagram

variable {α : Type}

/-- What a diagram that was read has to satisfy so that each line of its prompt says what it is
written for. -/
structure Graph.Legible (graph : Graph α) : Prop where
  /-- The label of a node opens no bracket. -/
  nodeLabels : ∀ node ∈ graph.nodes, '[' ∉ node.label.toList
  /-- A node without a label has an alias. -/
  captions : ∀ node ∈ graph.nodes, node.label = "" → node.name ≠ none
  /-- The alias of a node needs no quotes. -/
  names : ∀ node ∈ graph.nodes, ∀ name, node.name = some name → Attributes.Bare name
  /-- An edge line can begin with the reference of the node that the edge leaves. -/
  sources : ∀ edge ∈ graph.edges, ∀ node ∈ graph.nodes, node.id = edge.source →
    Statement.IsSource node.reference
  /-- The reference of the node that an edge enters opens no bracket behind its first character. -/
  targets : ∀ edge ∈ graph.edges, ∀ node ∈ graph.nodes, node.id = edge.target →
    '[' ∉ node.reference.toList.tail

instance (graph : Graph α) : Decidable graph.Legible :=
  decidable_of_iff
    ((∀ node ∈ graph.nodes, '[' ∉ node.label.toList) ∧
      (∀ node ∈ graph.nodes, node.label = "" → node.name ≠ none) ∧
      (∀ node ∈ graph.nodes, ∀ name ∈ node.name, Attributes.Bare name) ∧
      (∀ edge ∈ graph.edges, ∀ node ∈ graph.nodes, node.id = edge.source →
        Statement.IsSource node.reference) ∧
      ∀ edge ∈ graph.edges, ∀ node ∈ graph.nodes, node.id = edge.target →
        '[' ∉ node.reference.toList.tail)
    ⟨fun ⟨nodeLabels, captions, names, sources, targets⟩ =>
      ⟨nodeLabels, captions, names, sources, targets⟩,
      fun legible => ⟨legible.nodeLabels, legible.captions, legible.names, legible.sources,
        legible.targets⟩⟩

/-- A diagram whose clusters and nodes are those of another one under a renaming, edges left
aside. -/
structure Graph.MatchedBy (rename : Renaming) (graph image : Graph α) : Prop where
  /-- Different clusters keep different ids. -/
  clusters_injective : ∀ cluster ∈ graph.clusters, ∀ other ∈ graph.clusters,
    rename.cluster cluster.id = rename.cluster other.id → cluster = other
  /-- Different nodes keep different ids. -/
  nodes_injective : ∀ node ∈ graph.nodes, ∀ other ∈ graph.nodes,
    rename.node node.id = rename.node other.id → node = other
  /-- The clusters keep labels and parents, and there are no others. -/
  clusters : (image.clusters.map Cluster.unplaced).Perm (graph.clusters.map rename.ofCluster)
  /-- The nodes keep labels, aliases and clusters, and there are no others. -/
  nodes : (image.nodes.map Node.unplaced).Perm (graph.nodes.map rename.ofNode)

/-! ## Legible lines -/

namespace Graph.Legible

variable {graph : Graph α} (legible : graph.Legible) (lined : graph.Lined)

include legible lined

/-- The reference of every node fits on a line. -/
theorem tidy_reference {node : Node α} (node_mem : node ∈ graph.nodes) :
    Text.Tidy node.reference := by
  rw [Node.reference]
  cases name_eq : node.name with
  | none =>
      exact (lined.nodeLabels node node_mem).resolve_left fun empty =>
        legible.captions node node_mem empty name_eq
  | some name =>
      have tidy := lined.names node node_mem name name_eq
      rwa [Text.nonempty_of_tidy tidy, Option.getD_some]

theorem spelled (valid : graph.Valid) : Prompt.Spelled graph where
  valid := valid
  clusters := lined.clusterLabels
  nodes := fun node node_mem depth => Prompt.says_node (lined.nodeLabels node node_mem)
    (legible.nodeLabels node node_mem) (legible.names node node_mem)
    (legible.captions node node_mem) depth
  edges := fun edge edge_mem => Prompt.exists_edgeLine valid edge_mem
    (fun node node_mem source => ⟨legible.tidy_reference lined node_mem,
      legible.sources edge edge_mem node node_mem source⟩)
    (fun node node_mem target => ⟨legible.tidy_reference lined node_mem,
      legible.targets edge edge_mem node node_mem target⟩)
    (lined.edgeLabels edge edge_mem)

end Graph.Legible

namespace Prompt

/-! ## References that are read again -/

/-- An edge as its line tells it: the references of its ends, its label and its style. -/
def edgeTold (nodes : List (Node α)) (edge : Edge) : String × String × Option String × EdgeStyle :=
  (referenceTo nodes edge.source, referenceTo nodes edge.target, edge.label, edge.style)

/-- The reference of the first node, in the order of writing, that answers to a reference. -/
def answerTo (graph : Graph α) (reference : String) : String :=
  (((inWritingOrder graph).nodes.find? (matchesKey (Text.foldKey reference))).map
    Node.reference).getD ""

/-- A diagram none of whose edges changes ends when its references are looked up. -/
def IsAnswered (graph : Graph α) : Prop :=
  ∀ edge ∈ graph.edges,
    answerTo graph (referenceTo graph.nodes edge.source) = referenceTo graph.nodes edge.source ∧
      answerTo graph (referenceTo graph.nodes edge.target) = referenceTo graph.nodes edge.target

instance (graph : Graph α) : Decidable (IsAnswered graph) :=
  List.decidableBAll _ graph.edges

/-- An edge as it is told once its references have been looked up. -/
def edgeRetold (graph : Graph α) (edge : Edge) : String × String × Option String × EdgeStyle :=
  (answerTo graph (referenceTo graph.nodes edge.source),
    answerTo graph (referenceTo graph.nodes edge.target), edge.label, edge.style)

theorem map_edgeRetold_eq_iff (graph : Graph α) :
    graph.edges.map (edgeRetold graph) = graph.edges.map (edgeTold graph.nodes) ↔
      IsAnswered graph := by
  rw [List.map_inj_left, IsAnswered]
  apply forall₂_congr
  intro edge edge_mem
  simp only [edgeRetold, edgeTold, Prod.mk.injEq, and_true]

/-- A node answers to its own reference. -/
theorem matchesKey_reference {node : Node α} (tidy : Text.Tidy node.reference) :
    matchesKey (Text.foldKey node.reference) node = true := by
  rw [Text.foldKey, tidy.trimmed, Node.reference, matchesKey]
  cases Text.nonempty node.name <;> simp

section Copies

variable {graph : Graph α} {rename : Renaming} {copies : List (Node α)}
  (copied : copies.map Node.unplaced = (inWritingOrder graph).nodes.map rename.ofNode)

include copied

/-- A search by label and alias finds the copy of the node that it finds. -/
theorem find?_copies {p : Node α → Bool} (reads : ∀ first second : Node α,
    first.label = second.label → first.name = second.name → p first = p second) :
    (copies.find? p).map Node.unplaced =
      ((inWritingOrder graph).nodes.find? p).map rename.ofNode := by
  rw [← List.head?_filter, ← List.head?_filter, ← List.head?_map, ← List.head?_map,
    filter_of_map_eq copied fun copy _ node _ same =>
      reads copy node (congrArg (·.label) same) (congrArg (·.name) same)]

variable (valid : graph.Valid)

include valid

theorem exists_find?_copies {p : Node α → Bool} (reads : ∀ first second : Node α,
    first.label = second.label → first.name = second.name → p first = p second)
    {node : Node α} (node_mem : node ∈ graph.nodes) (accepted : p node = true) :
    ∃ copy, copies.find? p = some copy := by
  have listed := (perm_nodes_inWritingOrder valid).mem_iff.mpr node_mem
  rw [← Option.isSome_iff_exists, ← Option.isSome_map (f := Node.unplaced),
    find?_copies copied reads, Option.isSome_map, List.find?_isSome]
  exact ⟨node, listed, accepted⟩

end Copies

section Edges

variable [Scalar α] {context : Context α} {draft after : Draft α} {graph : Graph α}
  (spelled : Spelled graph) (tidy : ∀ node ∈ graph.nodes, Text.Tidy node.reference)
  {rename : Renaming} (known : context.nodes ⊆ graph.nodes)

include spelled tidy known

/-- The reference of a node leads to a node that is there; without known nodes it is the copy of the
first node that answers to it. -/
theorem resolve_copies
    (copied : draft.graph.nodes.map Node.unplaced = (inWritingOrder graph).nodes.map rename.ofNode)
    {node : Node α} (node_mem : node ∈ graph.nodes) :
    ∃ copy ∈ draft.graph.nodes, draft.resolve context node.reference = .ok (copy, draft) ∧
      (context.nodes = [] → copy.reference = answerTo graph node.reference) := by
  have reads (key : String) (first second : Node α) (label_eq : first.label = second.label)
      (name_eq : first.name = second.name) : matchesKey key first = matchesKey key second := by
    rw [matchesKey, matchesKey, label_eq, name_eq]
  obtain ⟨copy, found⟩ := exists_find?_copies copied spelled.valid (reads _) node_mem
    (matchesKey_reference (tidy node node_mem))
  rw [Draft.resolve, resolveReference]
  cases before : context.nodes.find? (matchesKey (Text.foldKey node.reference)) with
  | none =>
      simp only [found]
      refine ⟨copy, List.mem_of_find?_eq_some found, rfl, fun _ => ?_⟩
      have answer := find?_copies copied (reads (Text.foldKey node.reference))
      rw [found, Option.map_some] at answer
      obtain ⟨answering, answering_eq, same⟩ := Option.map_eq_some_iff.mp answer.symm
      have label_eq : answering.label = copy.label := congrArg (·.label) same
      have name_eq : answering.name = copy.name := congrArg (·.name) same
      rw [answerTo, answering_eq, Option.map_some, Option.getD_some, Node.reference,
        Node.reference, label_eq, name_eq]
  | some earlier =>
      -- a known node is one of the diagram, so that its copy has its key
      have earlier_mem := known (List.mem_of_find?_eq_some before)
      obtain ⟨namesake, namesake_found⟩ := exists_find?_copies copied spelled.valid
        (p := fun other => other.key == earlier.key)
        (fun first second label_eq name_eq => by simp only [Node.key, label_eq, name_eq])
        earlier_mem (by simp)
      simp only [namesake_found]
      refine ⟨namesake, List.mem_of_find?_eq_some namesake_found, rfl, fun unknown => ?_⟩
      rw [unknown] at before
      cases before

/-- An edge line adds no node; without known nodes its edge joins the nodes that answer to its
references. -/
theorem connect_retold
    (copied : draft.graph.nodes.map Node.unplaced = (inWritingOrder graph).nodes.map rename.ofNode)
    (distinct : draft.Identified) {edge : Edge} (edge_mem : edge ∈ graph.edges)
    (edge_tidy : ∀ label, edge.label = some label → Text.Tidy label)
    (done : draft.connect context (edgeStatement graph.nodes edge) = .ok after) :
    after.graph.clusters = draft.graph.clusters ∧ after.graph.nodes = draft.graph.nodes ∧
      (context.nodes = [] → after.graph.edges.map (edgeTold draft.graph.nodes) =
        draft.graph.edges.map (edgeTold draft.graph.nodes) ++ [edgeRetold graph edge]) := by
  have nodeIds := spelled.valid.nodeIds
  obtain ⟨source_mem, target_mem⟩ := spelled.valid.endpoints edge edge_mem
  obtain ⟨source, source_mem, source_eq⟩ := List.mem_map.mp source_mem
  obtain ⟨target, target_mem, target_eq⟩ := List.mem_map.mp target_mem
  obtain ⟨first, first_mem, source_found, first_answers⟩ :=
    resolve_copies spelled tidy known copied source_mem
  obtain ⟨last, last_mem, target_found, last_answers⟩ :=
    resolve_copies spelled tidy known copied target_mem
  have source_reference := referenceTo_eq nodeIds source_mem
  have target_reference := referenceTo_eq nodeIds target_mem
  rw [source_eq] at source_reference
  rw [target_eq] at target_reference
  have label_eq := Attributes.findEither?_label edge_tidy
  have style_eq := Attributes.ofText?_findEither?_arrow edge
  rw [edgeStatement, source_reference, target_reference] at done
  simp only [Draft.connect, source_found, target_found, bind, Except.bind, pure,
    Except.pure] at done
  cases done
  refine ⟨rfl, rfl, fun unknown => ?_⟩
  rw [List.map_append, List.map_singleton, edgeTold, edgeRetold,
    referenceTo_eq distinct.nodes.1 first_mem, referenceTo_eq distinct.nodes.1 last_mem,
    first_answers unknown, last_answers unknown, source_reference, target_reference, label_eq,
    style_eq]
  rfl

theorem connect_all_retold
    (copied : draft.graph.nodes.map Node.unplaced = (inWritingOrder graph).nodes.map rename.ofNode)
    (distinct : draft.Identified) {edges : List Edge} (within : edges ⊆ graph.edges)
    (edges_tidy : ∀ edge ∈ edges, ∀ label, edge.label = some label → Text.Tidy label)
    (done : (edges.map (edgeStatement graph.nodes)).foldlM (Draft.connect context) draft =
      .ok after) :
    after.graph.clusters = draft.graph.clusters ∧ after.graph.nodes = draft.graph.nodes ∧
      (context.nodes = [] → after.graph.edges.map (edgeTold draft.graph.nodes) =
        draft.graph.edges.map (edgeTold draft.graph.nodes) ++ edges.map (edgeRetold graph)) := by
  induction edges generalizing draft with
  | nil =>
      cases done
      exact ⟨rfl, rfl, fun _ => (List.append_nil _).symm⟩
  | cons edge edges induction =>
      rw [List.cons_subset] at within
      rw [List.forall_mem_cons] at edges_tidy
      obtain ⟨middle, first, rest⟩ := ok_of_foldlM_cons done
      obtain ⟨clusters_eq, nodes_eq, edges_eq⟩ :=
        connect_retold spelled tidy known copied distinct within.1 edges_tidy.1 first
      obtain ⟨rest_clusters, rest_nodes, rest_edges⟩ := induction (nodes_eq ▸ copied)
        (distinct.grows (Draft.grows_of_connect first)) within.2 edges_tidy.2 rest
      refine ⟨rest_clusters.trans clusters_eq, rest_nodes.trans nodes_eq, fun unknown => ?_⟩
      have rest_edges := rest_edges unknown
      rw [nodes_eq, edges_eq unknown, List.append_assoc, List.singleton_append] at rest_edges
      exact rest_edges

end Edges

/-! ## Whole prompts -/

section Read

variable [Scalar α] {context : Context α} {graph copy : Graph α} {drawn next : Nat}
  (valid : graph.Valid) (lined : graph.Lined) (legible : graph.Legible)

include valid lined legible

/-- The prompt of a legible diagram is read, against no known nodes or some of its own, as copies of
its clusters and nodes in writing order. -/
theorem copied_of_legible (known : context.nodes ⊆ graph.nodes)
    (done : read context (write graph) drawn = .ok (copy, next)) :
    (∃ rename : Renaming,
      copy.clusters.map Cluster.unplaced = (inWritingOrder graph).clusters.map rename.ofCluster ∧
        copy.nodes.map Node.unplaced = (inWritingOrder graph).nodes.map rename.ofNode) ∧
      (context.nodes = [] →
        copy.edges.map (edgeTold copy.nodes) = graph.edges.map (edgeRetold graph)) := by
  have spelled := legible.spelled lined valid
  obtain ⟨declared, draft, identified, no_edges, ⟨rename, clusters_copied, nodes_copied⟩,
    edges_done, rfl⟩ := exists_declared_of_read spelled done
  obtain ⟨clusters_eq, nodes_eq, edges_eq⟩ := connect_all_retold spelled
    (fun node node_mem => legible.tidy_reference lined node_mem) known nodes_copied identified
    (List.Subset.refl _) lined.edgeLabels edges_done
  refine ⟨⟨rename, clusters_eq ▸ clusters_copied, nodes_eq ▸ nodes_copied⟩, fun unknown => ?_⟩
  rw [nodes_eq, edges_eq unknown, no_edges, List.map_nil, List.nil_append]

theorem matched_of_legible (known : context.nodes ⊆ graph.nodes)
    (done : read context (write graph) drawn = .ok (copy, next)) :
    ∃ rename, graph.MatchedBy rename copy := by
  obtain ⟨⟨rename, clusters_copied, nodes_copied⟩, -⟩ :=
    copied_of_legible valid lined legible known done
  obtain ⟨draft, identified, rfl⟩ := identified_of_read done
  obtain ⟨-, clusters_perm⟩ := depthFirst_clusterOrder valid
  have nodes_perm := perm_nodes_inWritingOrder valid
  have clusterIds := identified.clusters.1
  have nodeIds := identified.nodes.1
  rw [← Cluster.map_id_unplaced, clusters_copied, List.map_map] at clusterIds
  rw [← Node.map_id_unplaced, nodes_copied, List.map_map] at nodeIds
  exact ⟨rename, {
    clusters_injective := fun cluster cluster_mem other other_mem same =>
      List.inj_on_of_nodup_map clusterIds (clusters_perm.mem_iff.mpr cluster_mem)
        (clusters_perm.mem_iff.mpr other_mem) same
    nodes_injective := fun node node_mem other other_mem same =>
      List.inj_on_of_nodup_map nodeIds (nodes_perm.mem_iff.mpr node_mem)
        (nodes_perm.mem_iff.mpr other_mem) same
    clusters := clusters_copied ▸ clusters_perm.map _
    nodes := nodes_copied ▸ nodes_perm.map _ }⟩

end Read

/-- Every text is read against nothing. When what was read is legible, its prompt is read as the
same clusters and nodes under other ids, and the edges are told in the same words exactly when each
reference is answered first by a node that bears it. -/
theorem read_write_of_read [Scalar α] {canvasWidth : α}
    (finite : Placement.FiniteWidth canvasWidth) (token : Nat → String) (text : String)
    (drawn : Nat) :
    ∃ parsed next, read { canvasWidth, token } text drawn = .ok (parsed, next) ∧
      (parsed.Legible → ∃ copy last,
        read { canvasWidth, token } (write parsed) next = .ok (copy, last) ∧
          (∃ rename, parsed.MatchedBy rename copy) ∧
          (copy.edges.map (edgeTold copy.nodes) = parsed.edges.map (edgeTold parsed.nodes) ↔
            IsAnswered parsed)) := by
  have total (text : String) (drawn : Nat) :
      ∃ out, read (⟨[], [], canvasWidth, token⟩ : Context α) text drawn = .ok out :=
    read_total finite text drawn
  obtain ⟨⟨parsed, next⟩, done⟩ := total text drawn
  refine ⟨parsed, next, done, fun legible => ?_⟩
  obtain ⟨⟨copy, last⟩, again⟩ := total (write parsed) next
  have lined := lined_of_read rfl done
  have valid : parsed.Valid := by
    obtain ⟨draft, sound, rfl⟩ := sound_of_read done
    exact sound.wellFormed.toValid
  obtain ⟨-, retold⟩ := copied_of_legible valid lined legible (List.nil_subset _) again
  refine ⟨copy, last, again, matched_of_legible valid lined legible (List.nil_subset _) again, ?_⟩
  rw [retold rfl]
  exact map_edgeRetold_eq_iff parsed

/-- A text with a node that has no label, two clusters of one label, brackets where they may stand
and references that are met before they are declared or differ in case. -/
private def oddText : String :=
  "UI -> ->x\n\tcluster:data\n\t NODE: [ NAME = it's ]\n\tCluster:  Data\n" ++
    "  node: a] [x, name=\"b[1]\"]\nB[1] -> ui [type=dotted, lable='1, 2']"

/-- The edges of that text. -/
private def oddEdges : List (String × String × Option String × EdgeStyle) :=
  [("UI", "->x", none, .solid), ("b[1]", "UI", some "1, 2", .dashed)]

theorem read_write_of_read_oddText :
    ∃ parsed next copy last,
      read { canvasWidth := (1600 : Float), token := toString } oddText 0 = .ok (parsed, next) ∧
        read { canvasWidth := (1600 : Float), token := toString } (write parsed) next =
          .ok (copy, last) ∧
        parsed.nodes.map Node.reference = ["it's", "b[1]", "UI", "->x"] ∧
        (∃ rename, parsed.MatchedBy rename copy) ∧
        copy.edges.map (edgeTold copy.nodes) = oddEdges := by
  have finite : Placement.FiniteWidth (1600 : Float) :=
    (Placement.finiteWidth_double_iff 1600).mpr ⟨_, _, _, rfl⟩
  obtain ⟨parsed, next, done, again⟩ := read_write_of_read finite toString oddText 0
  have evaluated : ((read { canvasWidth := (1600 : Float), token := toString } oddText 0).map
      fun out => decide (out.1.Legible ∧ IsAnswered out.1 ∧
        out.1.nodes.map Node.reference = ["it's", "b[1]", "UI", "->x"] ∧
        out.1.edges.map (edgeTold out.1.nodes) = oddEdges)) = .ok true := by
    decide +kernel
  rw [done] at evaluated
  obtain ⟨legible, answered, references, told⟩ := of_decide_eq_true (Except.ok.inj evaluated)
  obtain ⟨copy, last, reread, matched, told_iff⟩ := again legible
  exact ⟨parsed, next, copy, last, done, reread, references, matched,
    (told_iff.mpr answered).trans told⟩

end Prompt
end ClusterDiagram
