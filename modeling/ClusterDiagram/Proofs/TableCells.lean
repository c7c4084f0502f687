import ClusterDiagram.Proofs.TextLines
import ClusterDiagram.Tables.Prompt

/-!
# Reading a table of rows

A table with the columns of the rows is read cell by cell. What is read of a cell is its text, trimmed,
and nothing when the cell is missing.
-/

namespace ClusterDiagram

namespace Table

/-- What is read of a row under the name of a column: nothing when the column or the cell is missing. -/
def cell (table : Table) (name : String) (row : List (Option String)) : String :=
  Text.trim (((table.column? name).bind fun column =>
    (row[table.columns.idxOf column]?).join).getD "")

/-- A column that is there once is read row by row. -/
theorem cells_eq {table : Table} {name : String}
    (once : ∀ column, table.column? name = some column → table.columns.count column = 1) :
    table.cells name = .ok (table.rows.map (table.cell name)) := by
  rw [cells, funext (cell.eq_1 table name)]
  cases found : table.column? name with
  | none => rfl
  | some column => simp [once column found]

/-- Whether each column of a list is found under its own name. -/
def Findable (columns : List String) : Prop :=
  ∀ name ∈ columns,
    (columns.reverse.find? fun other => columnKey other == columnKey name) = some name ∧
      columns.count name = 1

instance (columns : List String) : Decidable (Findable columns) :=
  inferInstanceAs (Decidable (∀ name ∈ columns, _))

variable {β : Type} {columns : List String} {name : String} (findable : Findable columns)
  (known : name ∈ columns) (cellsOf : β → List (Option String)) (rows : List β)

include findable known

theorem cells_map :
    Table.cells ⟨columns, rows.map cellsOf⟩ name =
      .ok (rows.map fun row => Text.trim (((cellsOf row)[columns.idxOf name]?).join.getD "")) := by
  obtain ⟨found, once⟩ := findable name known
  have column_eq : Table.column? ⟨columns, rows.map cellsOf⟩ name = some name := found
  rw [cells_eq, List.map_map, funext (cell.eq_1 _ name), column_eq]
  · rfl
  · intro column column_found
    obtain rfl := Option.some.inj (column_eq.symm.trans column_found)
    exact once

/-- Columns that are there are not missed. -/
theorem isNone_column? : (Table.column? ⟨columns, rows.map cellsOf⟩ name).isNone = false := by
  have column_eq : Table.column? ⟨columns, rows.map cellsOf⟩ name = some name :=
    (findable name known).1
  rw [column_eq]
  rfl

end Table

/-- Texts that agree on every cell give the same rows, rows being told apart by their cells. -/
theorem map_eq_map_of_cells {β : Type} {cells : β → List String}
    (injective : Function.Injective cells) {f g : β → β} {f' g' : String → String}
    (cells_f : ∀ row, cells (f row) = (cells row).map f')
    (cells_g : ∀ row, cells (g row) = (cells row).map g') {rows : List β}
    (agree : ∀ row ∈ rows, ∀ text ∈ cells row, f' text = g' text) : rows.map f = rows.map g := by
  apply List.map_congr_left
  intro row row_mem
  apply injective
  rw [cells_f, cells_g]
  exact List.map_congr_left (agree row row_mem)

/-- What is read of a cell whose text is kept or lost. -/
def readCell (keep : String → Option String) (text : String) : String :=
  Text.trim ((keep text).getD "")

namespace NodeRow

/-- A row with other texts. -/
def mapCells (f : String → String) (row : NodeRow) : NodeRow :=
  ⟨f row.node, f row.name, f row.cluster, f row.parentCluster⟩

theorem findable_columns : Table.Findable columns := by
  decide +kernel

theorem ofTable_map (keep : String → Option String) (rows : List NodeRow) :
    ofTable ⟨columns, rows.map fun row => row.cells.map keep⟩ =
      .ok (rows.map (mapCells (readCell keep))) := by
  have cells {name : String} (known : name ∈ columns) :=
    Table.cells_map findable_columns known (fun row : NodeRow => row.cells.map keep) rows
  have listed {name : String} (known : name ∈ columns) :=
    Table.isNone_column? findable_columns known (fun row : NodeRow => row.cells.map keep) rows
  rw [ofTable, Table.require, List.filter_cons_of_neg (by rw [listed (by decide)]; decide),
    cells (by decide), cells (by decide), cells (by decide), cells (by decide)]
  simp only [List.filter_nil, bind, Except.bind, pure, Except.pure, List.zip_map', List.map_map]
  rfl

theorem map_mapCells_mapCells (f g : String → String) (rows : List NodeRow) :
    (rows.map (mapCells f)).map (mapCells g) = rows.map (mapCells fun text => g (f text)) := by
  rw [List.map_map]
  rfl

theorem cells_injective : Function.Injective cells := by
  rintro ⟨⟩ ⟨⟩ same
  simpa [cells] using same

theorem map_mapCells_congr {rows : List NodeRow} {f g : String → String}
    (agree : ∀ row ∈ rows, ∀ text ∈ row.cells, f text = g text) :
    rows.map (mapCells f) = rows.map (mapCells g) :=
  map_eq_map_of_cells cells_injective (fun _ => rfl) (fun _ => rfl) agree

/-- Rows whose cells keep their texts stay as they are. -/
theorem map_mapCells_eq {rows : List NodeRow} {f : String → String}
    (kept : ∀ row ∈ rows, ∀ text ∈ row.cells, f text = text) : rows.map (mapCells f) = rows :=
  (map_mapCells_congr kept).trans (List.map_id rows)

end NodeRow

namespace EdgeRow

/-- A row with other texts. -/
def mapCells (f : String → String) (row : EdgeRow) : EdgeRow :=
  ⟨f row.source, f row.destination, f row.style, f row.label⟩

theorem findable_columns : Table.Findable columns := by
  decide +kernel

theorem ofTable_map (keep : String → Option String) (rows : List EdgeRow) :
    ofTable ⟨columns, rows.map fun row => row.cells.map keep⟩ =
      .ok (rows.map (mapCells (readCell keep))) := by
  have cells {name : String} (known : name ∈ columns) :=
    Table.cells_map findable_columns known (fun row : EdgeRow => row.cells.map keep) rows
  have listed {name : String} (known : name ∈ columns) :=
    Table.isNone_column? findable_columns known (fun row : EdgeRow => row.cells.map keep) rows
  rw [ofTable, Table.require, List.filter_cons_of_neg (by rw [listed (by decide)]; decide),
    List.filter_cons_of_neg (by rw [listed (by decide)]; decide),
    cells (by decide), cells (by decide), cells (by decide), cells (by decide)]
  simp only [List.filter_nil, bind, Except.bind, pure, Except.pure, List.zip_map', List.map_map]
  rfl

theorem map_mapCells_mapCells (f g : String → String) (rows : List EdgeRow) :
    (rows.map (mapCells f)).map (mapCells g) = rows.map (mapCells fun text => g (f text)) := by
  rw [List.map_map]
  rfl

theorem cells_injective : Function.Injective cells := by
  rintro ⟨⟩ ⟨⟩ same
  simpa [cells] using same

theorem map_mapCells_congr {rows : List EdgeRow} {f g : String → String}
    (agree : ∀ row ∈ rows, ∀ text ∈ row.cells, f text = g text) :
    rows.map (mapCells f) = rows.map (mapCells g) :=
  map_eq_map_of_cells cells_injective (fun _ => rfl) (fun _ => rfl) agree

/-- Rows whose cells keep their texts stay as they are. -/
theorem map_mapCells_eq {rows : List EdgeRow} {f : String → String}
    (kept : ∀ row ∈ rows, ∀ text ∈ row.cells, f text = text) : rows.map (mapCells f) = rows :=
  (map_mapCells_congr kept).trans (List.map_id rows)

end EdgeRow

namespace Table

/-- The prompt of two tables of rows is the prompt of what is read of their cells. -/
theorem prompt_map (keep : String → Option String) (nodes : List NodeRow) (edges : List EdgeRow) :
    Table.prompt ⟨NodeRow.columns, nodes.map fun row => row.cells.map keep⟩
        (some ⟨EdgeRow.columns, edges.map fun row => row.cells.map keep⟩) =
      .ok (promptOfRows (nodes.map (NodeRow.mapCells (readCell keep)))
        (edges.map (EdgeRow.mapCells (readCell keep)))) := by
  simp only [Table.prompt, NodeRow.ofTable_map, EdgeRow.ofTable_map, bind, Except.bind, pure,
    Except.pure]

end Table
end ClusterDiagram
