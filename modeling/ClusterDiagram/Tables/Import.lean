import ClusterDiagram.Tables.Delimited
import ClusterDiagram.Tables.Workbook

/-!
# Importing tables

A table is imported from a workbook or from delimited text, as the ending of its path tells. With
delimited text the table of edges may come from a second file.
-/

namespace ClusterDiagram

/-- What a file holds. -/
inductive FileContent where
  /-- Characters. -/
  | text (value : String)
  /-- A workbook. -/
  | workbook (sheets : Workbook.Sheets)
  /-- Other files. -/
  | directory

/-- What there is under each path. -/
abbrev Files := String → Option FileContent

namespace Table

/-- The endings of workbooks. -/
def workbookEndings : List String := [".xlsx", ".xlsm", ".xls"]

/-- The ending of a path: its last component from the last point on, unless that point is the first
or the last character. -/
def ending (path : String) : String :=
  let name := ((path.toList.reverse.dropWhile (· == '/')).takeWhile (· != '/')).reverse
  let after := (name.reverse.takeWhile (· != '.')).reverse
  if after.isEmpty || name.length ≤ after.length + 1 then ""
  else String.ofList ('.' :: after)

/-- Read a table from delimited text. -/
def ofFile (files : Files) (path : String) : Except TableError Table :=
  match files path with
  | some (.text text) => Delimited.table text
  | some (.workbook _) => .error .noHeader
  | some .directory => .error (.directory path)
  | none => .error (.noFile path)

/-- Import the table under a path, with a table of edges where one is named, as a prompt. -/
def load (files : Files) (path : String) (edgesPath : Option String) :
    Except TableError String := do
  match files path with
  | none => throw (.noTable path)
  | some content =>
      if workbookEndings.contains (Text.lower (ending path)) then
        match content with
        | .workbook sheets => Workbook.prompt path sheets
        | .text _ => throw .notAWorkbook
        | .directory => throw (.directory path)
      else
        let nodes ← ofFile files path
        let edges ← edgesPath.mapM (ofFile files)
        Table.prompt nodes edges

end Table
end ClusterDiagram
