import ClusterDiagram.Text.Lower

/-!
# Tables

A table has named columns and rows of cells, some of which may be missing. Columns are found by loose
spelling: letter case, white space, hyphens and underscores do not count.
-/

namespace ClusterDiagram

/-- Why tables cannot be read or written. -/
inductive TableError where
  /-- Columns that a table must have are missing. -/
  | missingColumns (table : String) (columns : List String)
  /-- Several columns have one name, so that a column cannot be told. -/
  | repeatedColumn (column : String)
  /-- A file has no header. -/
  | noHeader
  /-- A line has more fields than the one before. -/
  | tooManyFields (expected line seen : Nat)
  /-- A quote is never closed; so many lines were complete before. -/
  | openQuote (lines : Nat)
  /-- A file does not hold a workbook. -/
  | notAWorkbook
  /-- A workbook has no sheet. -/
  | noSheet (path : String)
  /-- A text cannot stand in a cell. -/
  | unwritableText (text : String)
  /-- There is no table under a path. -/
  | noTable (path : String)
  /-- There is no file under a path. -/
  | noFile (path : String)
  /-- There is a directory under a path. -/
  | directory (path : String)
  deriving DecidableEq, Repr

/-- The text of a table error. -/
def TableError.message : TableError → String
  | .missingColumns table columns =>
      table ++ " table is missing column(s): " ++ ", ".intercalate columns
  | .repeatedColumn column =>
      "Cannot set a DataFrame with multiple columns to the single column " ++ column
  | .noHeader => "No columns to parse from file"
  | .tooManyFields expected line seen =>
      "Error tokenizing data. C error: Expected " ++ toString expected ++ " fields in line " ++
        toString line ++ ", saw " ++ toString seen ++ "\n"
  | .openQuote lines =>
      "Error tokenizing data. C error: EOF inside string starting at row " ++ toString lines
  | .notAWorkbook =>
      "Excel file format cannot be determined, you must specify an engine manually."
  | .noSheet path => "No node table found in " ++ path
  | .unwritableText text => text ++ " cannot be used in worksheets."
  | .noTable path => "Table not found: " ++ path
  | .noFile path => "[Errno 2] No such file or directory: '" ++ path ++ "'"
  | .directory path => "[Errno 21] Is a directory: '" ++ path ++ "'"

/-- Named columns and rows of cells. -/
structure Table where
  /-- Names of the columns. -/
  columns : List String
  /-- Cells of each row, in the order of the columns. -/
  rows : List (List (Option String))
  deriving DecidableEq, Repr

namespace Table

/-- The key under which a column is found. -/
def columnKey (name : String) : String :=
  String.ofList (Text.lowerChars (name.toList.filter fun c =>
    !(Text.isBlank c || c == '_' || c == '-')))

/-- The name of the last column found under a name. -/
def column? (table : Table) (name : String) : Option String :=
  table.columns.reverse.find? fun column => columnKey column == columnKey name

/-- The cells of a column, trimmed; a missing column or cell is empty. -/
def cells (table : Table) (name : String) : Except TableError (List String) :=
  match table.column? name with
  | none => .ok (table.rows.map fun _ => "")
  | some column =>
      if 1 < table.columns.count column then .error (.repeatedColumn name)
      else
        let index := table.columns.idxOf column
        .ok (table.rows.map fun row => Text.trim ((row[index]?).join.getD ""))

/-- Fail unless a table has some columns; `title` names the table. -/
def require (table : Table) (title : String) (names : List String) : Except TableError Unit :=
  match names.filter fun name => (table.column? name).isNone with
  | [] => .ok ()
  | missing => .error (.missingColumns title missing)

/-- Give every unnamed column a name, and number the later columns of one name. -/
def nameColumns (names : List String) : List String :=
  let named := names.mapIdx fun index name =>
    if name.isEmpty then "Unnamed: " ++ toString index else name
  named.mapIdx fun index name =>
    let earlier := (named.take index).count name
    if earlier = 0 then name else name ++ "." ++ toString earlier

end Table
end ClusterDiagram
