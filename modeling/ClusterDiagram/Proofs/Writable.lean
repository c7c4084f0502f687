import ClusterDiagram.Proofs.StatementText
import ClusterDiagram.Proofs.WritingOrder

/-!
# Diagrams that a prompt can hold

A valid diagram is writable when its labels and aliases fit on a line, do not meet the brackets,
commas and quotes around them and name one node each. Its prompt is read line by line: the floating
nodes, then the clusters with their nodes, then the edges.
-/

namespace ClusterDiagram

variable {α : Type}

/-- What a diagram has to satisfy so that its prompt says what it holds. -/
structure Graph.Writable (graph : Graph α) : Prop where
  /-- Nothing is wrong with the diagram. -/
  violations : graph.violations = []
  /-- The label of a cluster fits on a line. -/
  clusterLabels : ∀ cluster ∈ graph.clusters, Text.Tidy cluster.label
  /-- The label of a node fits on a line and opens no bracket. -/
  nodeLabels : ∀ node ∈ graph.nodes, Text.Tidy node.label ∧ '[' ∉ node.label.toList
  /-- The alias of a node needs no quotes and opens no bracket. -/
  names : ∀ node ∈ graph.nodes, ∀ name, node.name = some name →
    Attributes.Bare name ∧ '[' ∉ name.toList
  /-- An edge line can refer to every node. -/
  references : ∀ node ∈ graph.nodes, Statement.IsReference node.reference
  /-- No label and no alias, in any letter case, is the reference of another node. -/
  unambiguous : ∀ node ∈ graph.nodes, ∀ other ∈ graph.nodes, other.id ≠ node.id →
    Text.lower other.label ≠ Text.lower node.reference ∧
      ∀ name, other.name = some name → Text.lower name ≠ Text.lower node.reference
  /-- The label of an edge fits on a line. -/
  edgeLabels : ∀ edge ∈ graph.edges, ∀ label, edge.label = some label → Text.Tidy label

instance (graph : Graph α) : Decidable graph.Writable :=
  decidable_of_iff
    (graph.violations = [] ∧ (∀ cluster ∈ graph.clusters, Text.Tidy cluster.label) ∧
      (∀ node ∈ graph.nodes, Text.Tidy node.label ∧ '[' ∉ node.label.toList) ∧
      (∀ node ∈ graph.nodes, ∀ name ∈ node.name, Attributes.Bare name ∧ '[' ∉ name.toList) ∧
      (∀ node ∈ graph.nodes, Statement.IsReference node.reference) ∧
      (∀ node ∈ graph.nodes, ∀ other ∈ graph.nodes, other.id ≠ node.id →
        Text.lower other.label ≠ Text.lower node.reference ∧
          ∀ name ∈ other.name, Text.lower name ≠ Text.lower node.reference) ∧
      ∀ edge ∈ graph.edges, ∀ label ∈ edge.label, Text.Tidy label)
    ⟨fun ⟨violations, clusterLabels, nodeLabels, names, references, unambiguous, edgeLabels⟩ =>
      ⟨violations, clusterLabels, nodeLabels, names, references, unambiguous, edgeLabels⟩,
      fun writable => ⟨writable.violations, writable.clusterLabels, writable.nodeLabels,
        writable.names, writable.references, writable.unambiguous, writable.edgeLabels⟩⟩

namespace Graph.Writable

variable {graph : Graph α} (writable : graph.Writable)

include writable

theorem valid : graph.Valid :=
  valid_of_violations writable.violations

theorem nonempty_name {node : Node α} (node_mem : node ∈ graph.nodes) :
    Text.nonempty node.name = node.name := by
  cases name_eq : node.name with
  | none => rfl
  | some name =>
      have filled := (writable.names node node_mem name name_eq).1.nonempty
      simp [Text.nonempty, filled]

theorem reference_eq {node : Node α} (node_mem : node ∈ graph.nodes) :
    node.reference = node.name.getD node.label := by
  rw [Node.reference, writable.nonempty_name node_mem]

/-- The reference of a node fits on a line and opens no bracket. -/
theorem tidy_reference {node : Node α} (node_mem : node ∈ graph.nodes) :
    Text.Tidy node.reference ∧ '[' ∉ node.reference.toList := by
  rw [writable.reference_eq node_mem]
  cases name_eq : node.name with
  | none => exact writable.nodeLabels node node_mem
  | some name =>
      obtain ⟨bare, no_bracket⟩ := writable.names node node_mem name name_eq
      exact ⟨bare.toTidy, no_bracket⟩

theorem foldKey_reference {node : Node α} (node_mem : node ∈ graph.nodes) :
    Text.foldKey node.reference = Text.lower node.reference := by
  rw [Text.foldKey, (writable.tidy_reference node_mem).1.trimmed]

theorem eq_of_id_eq {node other : Node α} (node_mem : node ∈ graph.nodes)
    (other_mem : other ∈ graph.nodes) (same : other.id = node.id) : other = node :=
  List.inj_on_of_nodup_map writable.valid.nodeIds other_mem node_mem same

/-- The reference of a node finds that node and no other. -/
theorem matchesKey_iff {node other : Node α} (node_mem : node ∈ graph.nodes)
    (other_mem : other ∈ graph.nodes) :
    Prompt.matchesKey (Text.foldKey node.reference) other = true ↔ other = node := by
  rw [writable.foldKey_reference node_mem, Prompt.matchesKey, writable.nonempty_name other_mem]
  constructor
  · intro found
    by_contra different
    have apart : other.id ≠ node.id := fun same =>
      different (writable.eq_of_id_eq node_mem other_mem same)
    obtain ⟨label_apart, name_apart⟩ := writable.unambiguous node node_mem other other_mem apart
    cases name_eq : other.name with
    | none => simp [name_eq, label_apart] at found
    | some name => simp [name_eq, label_apart, name_apart name name_eq] at found
  · rintro rfl
    rw [writable.reference_eq node_mem]
    cases other.name <;> simp

/-- Different nodes have different keys. -/
theorem key_eq_iff {node other : Node α} (node_mem : node ∈ graph.nodes)
    (other_mem : other ∈ graph.nodes) : other.key = node.key ↔ other = node := by
  constructor
  · intro same
    by_contra different
    have apart : other.id ≠ node.id := fun same =>
      different (writable.eq_of_id_eq node_mem other_mem same)
    obtain ⟨label_apart, name_apart⟩ := writable.unambiguous node node_mem other other_mem apart
    have lower_eq : Text.lower other.reference = Text.lower node.reference := by
      rw [← writable.foldKey_reference node_mem, ← writable.foldKey_reference other_mem]
      exact same
    rw [writable.reference_eq other_mem] at lower_eq
    cases name_eq : other.name with
    | none =>
        rw [name_eq] at lower_eq
        exact label_apart lower_eq
    | some name =>
        rw [name_eq] at lower_eq
        exact name_apart name name_eq lower_eq
  · rintro rfl
    rfl

end Graph.Writable

namespace Prompt

/-! ## The statements of a diagram -/

/-- What a node line says. -/
def nodeStatement (node : Node α) : Statement :=
  .node node.label node.name

/-- What the lines of a cluster and its nodes say. -/
def blockStatements (graph : Graph α) (entry : Cluster α × Nat) : List Statement :=
  .cluster (2 * entry.2) entry.1.label :: (graph.members entry.1.id).map nodeStatement

/-- What the lines before the first edge line say. -/
def declarations (graph : Graph α) : List Statement :=
  (floating graph).map nodeStatement ++ (clusterOrder graph).flatMap (blockStatements graph)

/-- The reference of the node with an id. -/
def referenceTo (nodes : List (Node α)) (id : String) : String :=
  ((Node.lastWith? id nodes).map Node.reference).getD ""

/-- What an edge line says. -/
def edgeStatement (nodes : List (Node α)) (edge : Edge) : Statement :=
  .edge (referenceTo nodes edge.source) (referenceTo nodes edge.target) (Attributes.ofEdge edge)

theorem referenceTo_eq {nodes : List (Node α)} (ids : (nodes.map (·.id)).Nodup) {node : Node α}
    (node_mem : node ∈ nodes) : referenceTo nodes node.id = node.reference := by
  rw [referenceTo, Node.lastWith?_eq_some ids node_mem]
  rfl

theorem lines_eq (graph : Graph α) :
    lines graph = (floating graph).map (fun node => nodeText node.label node.name 0) ++
      (clusterOrder graph).flatMap (fun entry => clusterText entry.1.label entry.2 ::
        (graph.members entry.1.id).map fun node => nodeText node.label node.name (entry.2 + 1)) ++
      graph.edges.filterMap (edgeLine? graph.nodes) :=
  rfl

/-- Lines that say one statement each are read as those statements. -/
theorem lines_of_forall₂ {lines : List String} {statements : List Statement}
    (said : List.Forall₂ Says lines statements) :
    (∀ line ∈ lines, (∀ c ∈ line.toList, Text.isLineBreak c = false) ∧ Text.EndsInk line.toList) ∧
      (lines.map String.toList).filterMap Statement.ofLine? = statements := by
  induction said with
  | nil => simp
  | cons first rest induction =>
      obtain ⟨each, read⟩ := induction
      rw [List.forall_mem_cons, List.map_cons, List.filterMap_cons_some first.read, read]
      exact ⟨⟨⟨first.unbroken, first.ending⟩, each⟩, rfl⟩

/-- Joined lines that say one statement each are read as those statements. -/
theorem ofText_intercalate {lines : List String} {statements : List Statement}
    (said : List.Forall₂ Says lines statements) :
    Statement.ofText ("\n".intercalate lines) = statements := by
  obtain ⟨each, read⟩ := lines_of_forall₂ said
  have filled : ∀ line ∈ lines, line ≠ "" := by
    rintro _ line_mem rfl
    obtain ⟨c, c_mem, -⟩ := (each _ line_mem).2
    cases c_mem
  rw [Statement.ofText,
    Text.splitLines_intercalate filled fun line line_mem => (each line line_mem).1, read]

/-- A valid diagram each of whose lines says what it is written for. -/
structure Spelled (graph : Graph α) : Prop where
  /-- The diagram is valid. -/
  valid : graph.Valid
  /-- The label of a cluster fits on a line. -/
  clusters : ∀ cluster ∈ graph.clusters, Text.Tidy cluster.label
  /-- A node line says label and alias, however deep it is indented. -/
  nodes : ∀ node ∈ graph.nodes, ∀ depth,
    Says (nodeText node.label node.name depth) (nodeStatement node)
  /-- An edge has a line, which says references, style and label. -/
  edges : ∀ edge ∈ graph.edges, ∃ line, edgeLine? graph.nodes edge = some line ∧
    Says line (edgeStatement graph.nodes edge)

/-- The line of an edge says what it is written for when the references of its ends allow it. -/
theorem exists_edgeLine {graph : Graph α} (valid : graph.Valid) {edge : Edge}
    (edge_mem : edge ∈ graph.edges)
    (begins : ∀ node ∈ graph.nodes, node.id = edge.source →
      Text.Tidy node.reference ∧ Statement.IsSource node.reference)
    (ends : ∀ node ∈ graph.nodes, node.id = edge.target →
      Text.Tidy node.reference ∧ '[' ∉ node.reference.toList.tail)
    (tidy : ∀ label, edge.label = some label → Text.Tidy label) :
    ∃ line, edgeLine? graph.nodes edge = some line ∧
      Says line (edgeStatement graph.nodes edge) := by
  obtain ⟨source_mem, target_mem⟩ := valid.endpoints edge edge_mem
  obtain ⟨source, source_mem, source_eq⟩ := List.mem_map.mp source_mem
  obtain ⟨target, target_mem, target_eq⟩ := List.mem_map.mp target_mem
  obtain ⟨source_tidy, is_source⟩ := begins source source_mem source_eq
  obtain ⟨target_tidy, no_bracket⟩ := ends target target_mem target_eq
  have source_found := Node.lastWith?_eq_some valid.nodeIds source_mem
  have target_found := Node.lastWith?_eq_some valid.nodeIds target_mem
  rw [source_eq] at source_found
  rw [target_eq] at target_found
  obtain ⟨line, line_eq, chars⟩ := edgeLine?_eq source_found target_found tidy
  refine ⟨line, line_eq, ?_⟩
  rw [edgeStatement, ← source_eq, ← target_eq, referenceTo_eq valid.nodeIds source_mem,
    referenceTo_eq valid.nodeIds target_mem]
  exact says_edge chars source_tidy target_tidy is_source no_bracket tidy

/-- A writable diagram is spelled out by its lines. -/
theorem spelled_of_writable {graph : Graph α} (writable : graph.Writable) : Spelled graph where
  valid := writable.valid
  clusters := writable.clusterLabels
  nodes := by
    intro node node_mem depth
    obtain ⟨tidy, no_bracket⟩ := writable.nodeLabels node node_mem
    exact says_node (Or.inr tidy) no_bracket
      (fun name name_eq => (writable.names node node_mem name name_eq).1)
      (fun empty => absurd empty tidy.nonempty) depth
  edges := by
    intro edge edge_mem
    apply exists_edgeLine writable.valid edge_mem
    · intro node node_mem _
      exact ⟨(writable.tidy_reference node_mem).1, (writable.references node node_mem).isSource⟩
    · intro node node_mem _
      obtain ⟨tidy, no_bracket⟩ := writable.tidy_reference node_mem
      exact ⟨tidy, fun later => no_bracket (List.mem_of_mem_tail later)⟩
    · exact writable.edgeLabels edge edge_mem

section Lines

variable {graph : Graph α}

theorem says_nodeTexts {nodes : List (Node α)}
    (said : ∀ node ∈ nodes, ∀ depth,
      Says (nodeText node.label node.name depth) (nodeStatement node)) (depth : Nat) :
    List.Forall₂ Says (nodes.map fun node => nodeText node.label node.name depth)
      (nodes.map nodeStatement) := by
  rw [List.forall₂_map_left_iff, List.forall₂_map_right_iff, List.forall₂_same]
  exact fun node node_mem => said node node_mem depth

theorem says_blocks
    (said : ∀ node ∈ graph.nodes, ∀ depth,
      Says (nodeText node.label node.name depth) (nodeStatement node))
    {entries : List (Cluster α × Nat)} (tidy : ∀ entry ∈ entries, Text.Tidy entry.1.label) :
    List.Forall₂ Says
      (entries.flatMap fun entry => clusterText entry.1.label entry.2 ::
        (graph.members entry.1.id).map fun node => nodeText node.label node.name (entry.2 + 1))
      (entries.flatMap (blockStatements graph)) := by
  induction entries with
  | nil => exact .nil
  | cons entry entries induction =>
      rw [List.forall_mem_cons] at tidy
      rw [List.flatMap_cons, List.flatMap_cons]
      apply List.rel_append
      · refine .cons (says_cluster tidy.1 _) (says_nodeTexts ?_ _)
        exact fun node node_mem => said node (List.mem_of_mem_filter node_mem)
      · exact induction tidy.2

/-- The lines of clusters and nodes say what they are written for, whatever the parents are. -/
theorem says_declarations (clusters : ∀ cluster ∈ graph.clusters, Text.Tidy cluster.label)
    (said : ∀ node ∈ graph.nodes, ∀ depth,
      Says (nodeText node.label node.name depth) (nodeStatement node)) :
    List.Forall₂ Says
      ((floating graph).map (fun node => nodeText node.label node.name 0) ++
        (clusterOrder graph).flatMap fun entry => clusterText entry.1.label entry.2 ::
          (graph.members entry.1.id).map fun node => nodeText node.label node.name (entry.2 + 1))
      (declarations graph) := by
  apply List.rel_append
  · exact says_nodeTexts (fun node node_mem => said node (List.mem_of_mem_filter node_mem)) 0
  · exact says_blocks said fun entry entry_mem => clusters _ (mem_of_mem_clusterOrder entry_mem)

variable (spelled : Spelled graph)

include spelled

theorem says_edges {edges : List Edge} (within : edges ⊆ graph.edges) :
    List.Forall₂ Says (edges.filterMap (edgeLine? graph.nodes))
      (edges.map (edgeStatement graph.nodes)) := by
  induction edges with
  | nil => exact .nil
  | cons edge edges induction =>
      rw [List.cons_subset] at within
      obtain ⟨line, line_eq, said⟩ := spelled.edges edge within.1
      rw [List.filterMap_cons_some line_eq, List.map_cons]
      exact .cons said (induction within.2)

theorem says_lines : List.Forall₂ Says (lines graph)
    (declarations graph ++ graph.edges.map (edgeStatement graph.nodes)) := by
  rw [lines_eq]
  apply List.rel_append
  · exact says_declarations spelled.clusters spelled.nodes
  · exact says_edges spelled (List.Subset.refl _)

/-- The first line is not indented. -/
theorem startsInk_head : ∀ line ∈ (lines graph).head?, Text.StartsInk line.toList := by
  have node_start : ∀ node : Node α,
      Text.StartsInk (nodeText node.label node.name 0).toList := by
    intro node
    simp only [nodeText, String.toList_append]
    exact ⟨'N', rfl, rfl⟩
  have cluster_start : ∀ cluster : Cluster α,
      Text.StartsInk (clusterText cluster.label 0).toList := by
    intro cluster
    rw [clusterText, String.toList_append, String.toList_append]
    exact ⟨'C', rfl, rfl⟩
  have valid := spelled.valid
  obtain ⟨depthFirst, -⟩ := depthFirst_clusterOrder valid
  have nodes := perm_nodes_inWritingOrder valid
  rw [lines_eq]
  rw [inWritingOrder] at nodes
  cases floating_eq : floating graph with
  | cons node floating =>
      rintro line ⟨⟩
      exact node_start node
  | nil =>
      rw [floating_eq] at nodes
      generalize clusterOrder graph = order, rootsOf graph.clusters = roots at depthFirst nodes ⊢
      cases depthFirst with
      | cons descend proceed =>
          rintro line ⟨⟩
          exact cluster_start _
      | nil =>
          -- a diagram without nodes has no edges either
          have no_edges : graph.edges = [] := by
            rw [List.eq_nil_iff_forall_not_mem]
            intro edge edge_mem
            obtain ⟨source_mem, -⟩ := valid.endpoints edge edge_mem
            rw [nodes.nil_eq.symm] at source_mem
            cases source_mem
          rw [no_edges]
          simp

/-- A diagram that is spelled out by its lines is read as its statements. -/
theorem ofText_write : Statement.ofText (write graph) =
    declarations graph ++ graph.edges.map (edgeStatement graph.nodes) := by
  have said := says_lines spelled
  have trimmed := Text.trim_intercalate (startsInk_head spelled)
    fun line line_mem => ((lines_of_forall₂ said).1 line (List.mem_of_getLast? line_mem)).2
  rw [write, trimmed, ofText_intercalate said]

end Lines

end Prompt
end ClusterDiagram
