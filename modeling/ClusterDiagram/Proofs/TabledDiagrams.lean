import ClusterDiagram.Proofs.RoundTrip
import ClusterDiagram.Proofs.SameContent
import ClusterDiagram.Proofs.TablePrompts

/-!
# Diagrams through tables

A writable diagram whose clusters have different labels can be tabulated: the prompt of its two
tables is read as a diagram that holds the same as the diagram that is read of its own prompt.
-/

namespace ClusterDiagram

variable {α : Type}

/-! ## The cells of a writable diagram -/

/-- The tables of a writable diagram are read back as its rows. -/
theorem Graph.Writable.prompt_tables {graph : Graph α} (writable : graph.Writable) :
    Table.prompt graph.nodeTable (some graph.edgeTable) =
      .ok (Table.promptOfRows graph.nodeRows graph.edgeRows) := by
  have empty : readCell some "" = "" := rfl
  have labels : ∀ node ∈ graph.nodes, readCell some node.label = node.label :=
    fun node node_mem => (writable.nodeLabels node node_mem).1.trimmed
  have names : ∀ node ∈ graph.nodes, ∀ name, node.name = some name → readCell some name = name :=
    fun node node_mem name name_eq => (writable.names node node_mem name name_eq).1.trimmed
  have styles (style : EdgeStyle) : readCell some style.name = style.name := by
    cases style <;> rfl
  have nodeCells : ∀ row ∈ graph.nodeRows, ∀ text ∈ row.cells, readCell some text = text :=
    fun row row_mem => holds_cells_nodeRows (p := fun text => readCell some text = text) empty
      (fun cluster cluster_mem => (writable.clusterLabels cluster cluster_mem).trimmed)
      labels names row_mem
  have edgeCells : ∀ row ∈ graph.edgeRows, ∀ text ∈ row.cells, readCell some text = text :=
    fun row row_mem => holds_cells_edgeRows (p := fun text => readCell some text = text) empty
      labels names styles
      (fun edge edge_mem label label_eq =>
        (writable.edgeLabels edge edge_mem label label_eq).trimmed) row_mem
  rw [nodeTable, edgeTable, NodeRow.table, EdgeRow.table, Table.prompt_map,
    NodeRow.map_mapCells_eq nodeCells, EdgeRow.map_mapCells_eq edgeCells]

/-! ## Reading the prompt of the tables -/

namespace Prompt

variable [Scalar α]

/-- What is read of the prompt of a writable diagram holds the same as the diagram. -/
theorem exists_isomorphicBy_of_read {graph copy : Graph α} (writable : graph.Writable)
    {canvasWidth : α} {token : Nat → String} {drawn next : Nat}
    (done : read { canvasWidth, token } (write graph) drawn = .ok (copy, next)) :
    ∃ rename, graph.IsomorphicBy rename copy := by
  obtain ⟨rename, copied⟩ := copied_of_read writable (List.nil_subset graph.nodes) done
  obtain ⟨draft, identified, rfl⟩ := identified_of_read done
  exact ⟨rename,
    isomorphicBy_of_copiedBy writable.valid copied identified.clusters.1 identified.nodes.1⟩

/-- The tables of a writable diagram whose clusters have different labels are written as a prompt,
and what is read of that prompt holds the same as what is read of the prompt of the diagram. -/
theorem read_tables_isomorphic {graph : Graph α} (writable : graph.Writable)
    (distinct : (graph.clusters.map (·.label)).Nodup) {canvasWidth : α}
    (finite : Placement.FiniteWidth canvasWidth) (token token' : Nat → String)
    (drawn drawn' : Nat) :
    ∃ prompt fromTables next fromPrompt next',
      Table.prompt graph.nodeTable (some graph.edgeTable) = .ok prompt ∧
      read { canvasWidth, token } prompt drawn = .ok (fromTables, next) ∧
      read { canvasWidth, token := token' } (write graph) drawn' = .ok (fromPrompt, next') ∧
      ∃ rename, fromPrompt.IsomorphicBy rename fromTables := by
  obtain ⟨order, order_perm, prompt_eq⟩ := writable.exists_promptOfRows_eq distinct
  obtain ⟨⟨fromTables, next⟩, tables_done⟩ :
      ∃ out, read (⟨[], [], canvasWidth, token⟩ : Context α)
        (Table.promptOfRows graph.nodeRows graph.edgeRows) drawn = .ok out :=
    read_total finite _ drawn
  obtain ⟨⟨fromPrompt, next'⟩, prompt_done⟩ :
      ∃ out, read (⟨[], [], canvasWidth, token'⟩ : Context α) (write graph) drawn' = .ok out :=
    read_total finite _ drawn'
  refine ⟨_, fromTables, next, fromPrompt, next', writable.prompt_tables, tables_done, prompt_done,
    ?_⟩
  rw [prompt_eq] at tables_done
  obtain ⟨rename, same⟩ := exists_isomorphicBy_of_read writable prompt_done
  obtain ⟨rename', reordered⟩ :=
    exists_isomorphicBy_of_read (writable.reordered order_perm) tables_done
  obtain ⟨back, returns⟩ := same.exists_symm writable.valid
  exact ⟨_, returns.trans (reordered.of_reordered order_perm)⟩

/-- An inner cluster without nodes that is listed before its parent and after its child. -/
def nestedVacant : Graph Float :=
  { clusters := [⟨"c", "Leaf", some "b", none, none⟩, ⟨"b", "Middle", some "a", none, none⟩,
      ⟨"a", "Out: er", none, none, none⟩, ⟨"d", "Side", some "a", none, none⟩]
    nodes := [⟨"n", "UI, x", some "u \"1\" i", 0, 0, none⟩,
      ⟨"m", "Store]", none, 0, 0, some "c"⟩, ⟨"k", "API", some "gate", 0, 0, some "a"⟩]
    edges := [⟨"e", "n", "m", some "GET [\"a\", 'b\\']", .dashed⟩,
      ⟨"e", "m", "k", none, .doubleDotted⟩, ⟨"f", "k", "k", some "->", .double⟩] }

theorem read_tables_nestedVacant :
    ∃ prompt fromTables next fromPrompt next',
      Table.prompt nestedVacant.nodeTable (some nestedVacant.edgeTable) = .ok prompt ∧
      read { canvasWidth := (1600 : Float), token := toString } prompt 0 = .ok (fromTables, next) ∧
      read { canvasWidth := (1600 : Float), token := fun _ => "t" } (write nestedVacant) 5 =
        .ok (fromPrompt, next') ∧
      ∃ rename, fromPrompt.IsomorphicBy rename fromTables := by
  have writable : nestedVacant.Writable := by decide +kernel
  have distinct : (nestedVacant.clusters.map (·.label)).Nodup := by decide
  have finite : Placement.FiniteWidth (1600 : Float) :=
    (Placement.finiteWidth_double_iff 1600).mpr ⟨_, _, _, rfl⟩
  exact read_tables_isomorphic writable distinct finite toString (fun _ => "t") 0 5

end Prompt
end ClusterDiagram
