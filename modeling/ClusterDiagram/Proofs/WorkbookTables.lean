import ClusterDiagram.Proofs.Computations
import ClusterDiagram.Proofs.TableCells
import ClusterDiagram.Proofs.TableRows
import ClusterDiagram.Tables.Workbook

/-!
# Tables through workbooks

A diagram is exported as the workbook of its two tables. What is imported again are these tables
without the texts that spell a missing value or the code of an error: such cells are lost.
-/

namespace ClusterDiagram

variable {α : Type}

/-- The texts in the cells of both tables of a diagram. -/
def Graph.cellTexts (graph : Graph α) : List String :=
  graph.nodeRows.flatMap NodeRow.cells ++ graph.edgeRows.flatMap EdgeRow.cells

theorem Graph.forall_cellTexts {graph : Graph α} {p : String → Prop} :
    (∀ text ∈ graph.cellTexts, p text) ↔
      (∀ row ∈ graph.nodeRows, ∀ text ∈ row.cells, p text) ∧
        ∀ row ∈ graph.edgeRows, ∀ text ∈ row.cells, p text := by
  rw [Graph.cellTexts, List.forall_mem_append, List.forall_mem_flatMap, List.forall_mem_flatMap]

namespace Workbook

/-! ## Single cells -/

/-- Whether a character of a text cannot stand in a cell. -/
def Unwritable (text : String) : Prop :=
  text.toList.any isUnwritable = true

instance (text : String) : Decidable (Unwritable text) :=
  inferInstanceAs (Decidable (_ = _))

/-- What a reader gets from the cell of a text. -/
def kept? (text : String) : Option String :=
  match Cell.ofText text with
  | .ok cell => cell.dataText?
  | .error _ => none

theorem exists_ofText_ok {text : String} (writable : ¬ Unwritable text) :
    ∃ cell, Cell.ofText text = .ok cell ∧ cell.dataText? = kept? text := by
  cases stored : Cell.ofText text with
  | ok cell =>
      refine ⟨cell, rfl, ?_⟩
      rw [kept?, stored]
  | error error =>
      rw [Unwritable] at writable
      rw [Cell.ofText, if_neg writable] at stored
      split at stored
      · cases stored
      · dsimp only at stored
        split at stored
        · cases stored
        · split at stored <;> cases stored

/-! ## Sheets -/

section Sheet

variable {rows : List (List String)} {width : Nat}

theorem unwritable?_eq_none (writable : ∀ row ∈ rows, ∀ text ∈ row, ¬ Unwritable text) :
    unwritable? rows width = none := by
  rw [unwritable?, List.findSome?_eq_none_iff]
  intro column _
  rw [List.findSome?_eq_none_iff]
  intro row row_mem
  rw [Option.filter_eq_none_iff]
  intro text found
  exact writable row row_mem text (List.mem_of_getElem? found)

theorem exists_unwritable?_eq_some (narrow : ∀ row ∈ rows, row.length ≤ width)
    {row : List String} (row_mem : row ∈ rows) {text : String} (text_mem : text ∈ row)
    (bad : Unwritable text) : ∃ other, unwritable? rows width = some other := by
  rw [← Option.isSome_iff_exists, ← Option.ne_none_iff_isSome]
  intro none
  obtain ⟨column, column_lt, text_eq⟩ := List.mem_iff_getElem.mp text_mem
  rw [unwritable?, List.findSome?_eq_none_iff] at none
  have passed := none column (List.mem_range.mpr (column_lt.trans_le (narrow row row_mem)))
  rw [List.findSome?_eq_none_iff] at passed
  have filtered := passed row row_mem
  rw [List.getElem?_eq_getElem column_lt, text_eq, Option.filter_eq_none_iff] at filtered
  exact filtered text rfl bad

theorem unwritable_of_unwritable? {text : String} (found : unwritable? rows width = some text) :
    (∃ row ∈ rows, text ∈ row) ∧ Unwritable text := by
  obtain ⟨column, -, found⟩ := List.exists_of_findSome?_eq_some found
  obtain ⟨row, row_mem, found⟩ := List.exists_of_findSome?_eq_some found
  obtain ⟨text_at, bad⟩ := Option.filter_eq_some_iff.mp found
  exact ⟨⟨row, row_mem, List.mem_of_getElem? text_at⟩, bad⟩

end Sheet

theorem width_map_text (texts : List String) : width (texts.map .text) = texts.length := by
  have length_eq : texts.reverse.length = texts.length := List.length_reverse
  rw [width, ← List.map_reverse]
  cases reversed : texts.reverse with
  | nil =>
      rw [← length_eq, reversed]
      rfl
  | cons last front =>
      rw [List.map_cons, List.dropWhile_cons_of_neg (by simp [Cell.hasValue]), ← List.map_cons,
        List.length_map, ← reversed, length_eq]

/-- Columns that are named on a sheet as they are. -/
structure Headline (columns : List String) : Prop where
  /-- Each name is a text. -/
  texts : columns.mapM Cell.ofText = .ok (columns.map .text)
  /-- There are several columns. -/
  several : 1 < columns.length
  /-- No name is given twice. -/
  names : Table.nameColumns columns = columns

theorem headline_nodes : Headline NodeRow.columns :=
  ⟨rfl, by decide, by decide +kernel⟩

theorem headline_edges : Headline EdgeRow.columns :=
  ⟨rfl, by decide, by decide +kernel⟩

/-- A sheet of writable texts is read as the table of what is kept of them. -/
theorem exists_sheetOf_ok {columns : List String} (headline : Headline columns) (title : String)
    {rows : List (List String)} (writable : ∀ row ∈ rows, ∀ text ∈ row, ¬ Unwritable text) :
    ∃ cells, sheetOf title columns rows = .ok (title, cells) ∧
      table cells = ⟨columns, rows.map fun row => row.map kept?⟩ := by
  obtain ⟨body, body_eq, body_content⟩ :
      ∃ body, (rows.mapM fun row => row.mapM Cell.ofText) = .ok body ∧
        (body.map fun row => row.map Cell.dataText?) = rows.map fun row => row.map kept? :=
    exists_mapM_ok_map fun row row_mem =>
      exists_mapM_ok_map fun text text_mem => exists_ofText_ok (writable row row_mem text text_mem)
  refine ⟨columns.map .text :: body, ?_, ?_⟩
  · rw [sheetOf, unwritable?_eq_none writable]
    simp only [List.mapM_cons, headline.texts, body_eq, bind, Except.bind, pure, Except.pure]
  · have wide : (columns.map Cell.text :: body).all (width · ≤ 1) = false := by
      have several := headline.several
      rw [List.all_cons, width_map_text, decide_eq_false (by omega), Bool.false_and]
    have names : (columns.map Cell.text).map Cell.headerText = columns := by
      rw [List.map_map]
      exact List.map_id columns
    rw [table, fromHeader, wide]
    simp only [Bool.false_eq_true, if_false]
    rw [names, headline.names, body_content]

/-- A sheet has writable texts only, or it cannot be written for one of its texts. -/
theorem sheetOf_cases (title : String) {columns : List String} {rows : List (List String)}
    (narrow : ∀ row ∈ rows, row.length ≤ columns.length) :
    (∀ row ∈ rows, ∀ text ∈ row, ¬ Unwritable text) ∨
      ∃ row ∈ rows, ∃ text ∈ row, Unwritable text ∧
        sheetOf title columns rows = .error (.unwritableText text) := by
  by_cases writable : ∀ row ∈ rows, ∀ text ∈ row, ¬ Unwritable text
  · exact Or.inl writable
  · right
    push Not at writable
    obtain ⟨row, row_mem, text, text_mem, bad⟩ := writable
    obtain ⟨other, found⟩ := exists_unwritable?_eq_some narrow row_mem text_mem bad
    obtain ⟨⟨row, row_mem, other_mem⟩, other_bad⟩ := unwritable_of_unwritable? found
    refine ⟨row, row_mem, other, other_mem, other_bad, ?_⟩
    rw [sheetOf, found]

/-! ## Whole workbooks -/

/-- All texts of a diagram are writable, or it cannot be exported for one of them. -/
theorem ofGraph_cases (graph : Graph α) :
    (∀ text ∈ graph.cellTexts, ¬ Unwritable text) ∨
      ∃ text ∈ graph.cellTexts, Unwritable text ∧
        ofGraph graph = .error (.unwritableText text) := by
  have node_width : ∀ row ∈ graph.nodeRows.map NodeRow.cells,
      row.length ≤ NodeRow.columns.length := by
    rw [List.forall_mem_map]
    exact fun _ _ => Nat.le_refl 4
  have edge_width : ∀ row ∈ graph.edgeRows.map EdgeRow.cells,
      row.length ≤ EdgeRow.columns.length := by
    rw [List.forall_mem_map]
    exact fun _ _ => Nat.le_refl 4
  rcases sheetOf_cases nodesTitle node_width with
    node_texts | ⟨_, row_mem, text, text_mem, bad, failed⟩
  · rcases sheetOf_cases edgesTitle edge_width with
      edge_texts | ⟨_, row_mem, text, text_mem, bad, failed⟩
    · left
      rw [List.forall_mem_map] at node_texts edge_texts
      exact Graph.forall_cellTexts.mpr ⟨node_texts, edge_texts⟩
    · obtain ⟨cells, written, -⟩ := exists_sheetOf_ok headline_nodes nodesTitle node_texts
      obtain ⟨row, listed, rfl⟩ := List.mem_map.mp row_mem
      refine Or.inr ⟨text, ?_, bad, ?_⟩
      · exact List.mem_append_right _ (List.mem_flatMap.mpr ⟨row, listed, text_mem⟩)
      · simp only [ofGraph, written, failed, bind, Except.bind]
  · obtain ⟨row, listed, rfl⟩ := List.mem_map.mp row_mem
    refine Or.inr ⟨text, ?_, bad, ?_⟩
    · exact List.mem_append_left _ (List.mem_flatMap.mpr ⟨row, listed, text_mem⟩)
    · simp only [ofGraph, failed, bind, Except.bind]

/-- Sheets of writable texts are read as the prompt of what is kept of them. -/
theorem exists_ofGraph_ok {graph : Graph α}
    (writable : ∀ text ∈ graph.cellTexts, ¬ Unwritable text) (path : String) :
    ∃ sheets, ofGraph graph = .ok sheets ∧
      prompt path sheets = .ok (Table.promptOfRows
        (graph.nodeRows.map (NodeRow.mapCells (readCell kept?)))
        (graph.edgeRows.map (EdgeRow.mapCells (readCell kept?)))) := by
  rw [Graph.forall_cellTexts] at writable
  have node_texts : ∀ row ∈ graph.nodeRows.map NodeRow.cells, ∀ text ∈ row, ¬ Unwritable text := by
    simpa using writable.1
  have edge_texts : ∀ row ∈ graph.edgeRows.map EdgeRow.cells, ∀ text ∈ row, ¬ Unwritable text := by
    simpa using writable.2
  obtain ⟨nodes, nodes_eq, node_table⟩ := exists_sheetOf_ok headline_nodes nodesTitle node_texts
  obtain ⟨edges, edges_eq, edge_table⟩ := exists_sheetOf_ok headline_edges edgesTitle edge_texts
  rw [List.map_map] at node_table edge_table
  refine ⟨[(nodesTitle, nodes), (edgesTitle, edges)], ?_, ?_⟩
  · simp only [ofGraph, nodes_eq, edges_eq, bind, Except.bind, pure, Except.pure]
  · have apart : (Text.foldKey nodesTitle == Text.foldKey edgesTitle) = false := by decide +kernel
    have node_sheet : sheet? [(nodesTitle, nodes), (edgesTitle, edges)] nodesTitle 0 =
        some nodes := by
      simp [sheet?]
    have edge_sheet : sheet? [(nodesTitle, nodes), (edgesTitle, edges)] edgesTitle 1 =
        some edges := by
      simp [sheet?, apart]
    rw [prompt, node_sheet, edge_sheet]
    simp only [Option.map_some, node_table, edge_table]
    exact Table.prompt_map kept? graph.nodeRows graph.edgeRows

/-! ## Texts that are lost -/

/-- A text that is trimmed, on one line and no formula. -/
structure Plain (text : String) : Prop where
  /-- Neither end is blank. -/
  trimmed : Text.trim text = text
  /-- No character ends a line. -/
  unbroken : ∀ c ∈ text.toList, Text.isLineBreak c = false
  /-- It does not start like a formula. -/
  literal : text.toList.head? ≠ some '='

instance (text : String) : Decidable (Plain text) :=
  decidable_of_iff
    (Text.trim text = text ∧ (∀ c ∈ text.toList, Text.isLineBreak c = false) ∧
      text.toList.head? ≠ some '=')
    ⟨fun ⟨trimmed, unbroken, literal⟩ => ⟨trimmed, unbroken, literal⟩,
      fun plain => ⟨plain.trimmed, plain.unbroken, plain.literal⟩⟩

/-- Whether a text is taken for a missing value or the code of an error. -/
def isLost (text : String) : Bool :=
  missingSpellings.contains text || errorCodes.contains text

/-- A text, empty when it is lost. -/
def unlessLost (text : String) : String :=
  if isLost text then "" else text

theorem joinLineEnds_eq {cs : List Char} (unbroken : ∀ c ∈ cs, Text.isLineBreak c = false) :
    Text.joinLineEnds cs = cs := by
  have no_return : ∀ c ∈ cs, c ≠ '\r' := by
    rintro c c_mem rfl
    exact absurd (unbroken _ c_mem) (by decide)
  clear unbroken
  fun_induction Text.joinLineEnds cs with
  | case1 => rfl
  | case2 rest => exact absurd rfl (no_return '\r' List.mem_cons_self)
  | case3 c rest _ induction =>
      rw [List.forall_mem_cons] at no_return
      rw [if_neg no_return.1, induction no_return.2]

theorem ofText_of_plain {text : String} (plain : Plain text) (writable : ¬ Unwritable text) :
    Cell.ofText text = .ok (if text.isEmpty then .empty
      else if errorCodes.contains text then .errorCode text else .text text) := by
  rw [Unwritable] at writable
  have joined : String.ofList (Text.joinLineEnds text.toList) = text := by
    rw [joinLineEnds_eq plain.unbroken, String.ofList_toList]
  rw [Cell.ofText, if_neg writable, joined]
  simp only [plain.literal, decide_false, Bool.false_and, Bool.false_eq_true, if_false]
  split
  · rfl
  · split <;> rfl

/-- A plain text is read as it is unless it is lost. -/
theorem readCell_kept? {text : String} (plain : Plain text) (writable : ¬ Unwritable text) :
    readCell kept? text = readCell some (unlessLost text) := by
  rw [readCell, kept?, ofText_of_plain plain writable, unlessLost, isLost]
  by_cases empty : text = ""
  · rw [empty]
    rfl
  · simp only [String.isEmpty_eq_false_iff.mpr empty, Bool.false_eq_true, if_false]
    cases errorCodes.contains text with
    | true =>
        rw [Bool.or_true]
        rfl
    | false =>
        rw [Bool.or_false]
        simp only [Bool.false_eq_true, if_false, Cell.dataText?]
        cases missingSpellings.contains text <;> rfl

end Workbook

/-- A diagram all of whose labels and aliases are plain. -/
structure Graph.Plain (graph : Graph α) : Prop where
  /-- The labels of the clusters. -/
  clusters : ∀ cluster ∈ graph.clusters, Workbook.Plain cluster.label
  /-- The labels of the nodes. -/
  nodes : ∀ node ∈ graph.nodes, Workbook.Plain node.label
  /-- The aliases of the nodes. -/
  names : ∀ node ∈ graph.nodes, ∀ name, node.name = some name → Workbook.Plain name
  /-- The labels of the edges. -/
  edges : ∀ edge ∈ graph.edges, ∀ label, edge.label = some label → Workbook.Plain label

instance (graph : Graph α) : Decidable graph.Plain :=
  decidable_of_iff
    ((∀ cluster ∈ graph.clusters, Workbook.Plain cluster.label) ∧
      (∀ node ∈ graph.nodes, Workbook.Plain node.label) ∧
      (∀ node ∈ graph.nodes, ∀ name ∈ node.name, Workbook.Plain name) ∧
      ∀ edge ∈ graph.edges, ∀ label ∈ edge.label, Workbook.Plain label)
    ⟨fun ⟨clusters, nodes, names, edges⟩ => ⟨clusters, nodes, names, edges⟩,
      fun plain => ⟨plain.clusters, plain.nodes, plain.names, plain.edges⟩⟩

/-- All cells of a plain diagram are plain. -/
theorem Graph.Plain.cellTexts {graph : Graph α} (plain : graph.Plain) :
    ∀ text ∈ graph.cellTexts, Workbook.Plain text := by
  have empty : Workbook.Plain "" := by decide
  have styles (style : EdgeStyle) : Workbook.Plain style.name := by cases style <;> decide
  rw [Graph.forall_cellTexts]
  exact ⟨fun _ => holds_cells_nodeRows empty plain.clusters plain.nodes plain.names,
    fun _ => holds_cells_edgeRows empty plain.nodes plain.names styles plain.edges⟩

namespace Workbook

/-- A diagram with plain texts is exported, unless one of them holds a character that cannot stand in
a cell, and imported as the prompt of its tables without the texts that are lost. When none is lost
that is the prompt of its tables. -/
theorem prompt_ofGraph {graph : Graph α} (plain : graph.Plain) (path : String) :
    (∃ sheets text, ofGraph graph = .ok sheets ∧ prompt path sheets = .ok text ∧
        Table.prompt (NodeRow.table (graph.nodeRows.map (NodeRow.mapCells unlessLost)))
          (some (EdgeRow.table (graph.edgeRows.map (EdgeRow.mapCells unlessLost)))) = .ok text ∧
        ((∀ cell ∈ graph.cellTexts, cell = "" ∨ isLost cell = false) →
          Table.prompt graph.nodeTable (some graph.edgeTable) = .ok text)) ∨
      ∃ cell ∈ graph.cellTexts, Unwritable cell ∧
        ofGraph graph = .error (.unwritableText cell) := by
  refine (ofGraph_cases graph).imp_left fun writable => ?_
  obtain ⟨sheets, written, imported⟩ := exists_ofGraph_ok writable path
  have read : ∀ text ∈ graph.cellTexts, readCell kept? text = readCell some (unlessLost text) :=
    fun text text_mem => readCell_kept? (plain.cellTexts text text_mem) (writable text text_mem)
  rw [Graph.forall_cellTexts] at read
  have blanked : Table.prompt (NodeRow.table (graph.nodeRows.map (NodeRow.mapCells unlessLost)))
      (some (EdgeRow.table (graph.edgeRows.map (EdgeRow.mapCells unlessLost)))) =
      prompt path sheets := by
    rw [imported, NodeRow.map_mapCells_congr read.1, EdgeRow.map_mapCells_congr read.2,
      NodeRow.table, EdgeRow.table, Table.prompt_map, NodeRow.map_mapCells_mapCells,
      EdgeRow.map_mapCells_mapCells]
  refine ⟨sheets, _, written, imported, blanked.trans imported, fun whole => ?_⟩
  have same : ∀ text ∈ graph.cellTexts, unlessLost text = text := by
    intro text text_mem
    rcases whole text text_mem with rfl | found
    · decide
    · rw [unlessLost, found]
      rfl
  rw [Graph.forall_cellTexts] at same
  rw [NodeRow.map_mapCells_eq same.1, EdgeRow.map_mapCells_eq same.2] at blanked
  exact blanked.trans imported

/-- Plain words, some of which spell a missing value. -/
def missingWords : Graph Float where
  clusters := [{ id := "k", label := "Keys" }]
  nodes := [{ id := "a", label := "NA", x := 0, y := 0 },
    { id := "b", label := "Region", name := some "null", x := 0, y := 0, cluster := some "k" }]
  edges := [{ id := "e", source := "a", target := "b", label := some "n/a" }]

theorem prompt_ofGraph_missingWords :
    missingWords.Plain ∧
      ((∃ sheets text, ofGraph missingWords = .ok sheets ∧ prompt "d.xlsx" sheets = .ok text ∧
          Table.prompt (NodeRow.table (missingWords.nodeRows.map (NodeRow.mapCells unlessLost)))
            (some (EdgeRow.table (missingWords.edgeRows.map (EdgeRow.mapCells unlessLost)))) =
              .ok text ∧
          ((∀ cell ∈ missingWords.cellTexts, cell = "" ∨ isLost cell = false) →
            Table.prompt missingWords.nodeTable (some missingWords.edgeTable) = .ok text)) ∨
        ∃ cell ∈ missingWords.cellTexts, Unwritable cell ∧
          ofGraph missingWords = .error (.unwritableText cell)) :=
  have plain : missingWords.Plain := by decide +kernel
  ⟨plain, prompt_ofGraph plain "d.xlsx"⟩

/-- Of the nodes only the one whose label is no such word is left. -/
example : (ofGraph missingWords).bind (prompt "d.xlsx") =
    .ok "Cluster: Keys\n  Node: Region" := by
  decide +kernel

end Workbook
end ClusterDiagram
