import ClusterDiagram.Decimal.Reader
import ClusterDiagram.Decimal.Shortest
import ClusterDiagram.Tables.Prompt

/-!
# Workbooks

A workbook is a list of titled sheets of cells. A text that starts like a formula or that is the code of
an error is kept as such, and has no value when the sheet is read as a table. A number is kept with
sixteen significant digits; a whole one is read without a point. Cells that spell a missing value
count as missing below the header.
-/

namespace ClusterDiagram
namespace Workbook

/-- What a cell holds. -/
inductive Cell where
  /-- Nothing. -/
  | empty
  /-- A text. -/
  | text (value : String)
  /-- A formula, whose value is not known. -/
  | formula (source : String)
  /-- The code of an error. -/
  | errorCode (code : String)
  /-- A number. -/
  | number (value : Float)
  /-- A truth value. -/
  | flag (value : Bool)

/-- Sheets in order, each with its title and its rows. -/
abbrev Sheets := List (String × List (List Cell))

/-- The codes of errors. -/
def errorCodes : List String :=
  ["#NULL!", "#DIV/0!", "#VALUE!", "#REF!", "#NAME?", "#NUM!", "#N/A"]

/-- The spellings of a missing value. -/
def missingSpellings : List String :=
  ["", "#N/A", "#N/A N/A", "#NA", "-1.#IND", "-1.#QNAN", "-NaN", "-nan", "1.#IND", "1.#QNAN",
    "<NA>", "N/A", "NA", "NULL", "NaN", "None", "n/a", "nan", "null"]

/-- Whether a character cannot stand in a cell. -/
def isUnwritable (c : Char) : Bool :=
  c.toNat < 0x20 && c != '\t' && c != '\n' && c != '\r'

/-- The cell of a text. -/
def Cell.ofText (text : String) : Except TableError Cell :=
  if text.toList.any isUnwritable then .error (.unwritableText text)
  else if text.isEmpty then .ok .empty
  else
    let stored := String.ofList (Text.joinLineEnds text.toList)
    if errorCodes.contains stored then .ok (.errorCode stored)
    else if stored.toList.head? = some '=' && stored != "=" then .ok (.formula stored)
    else .ok (.text stored)

/-- The double nearest to the sixteen leading decimal digits of a double. -/
def keepDigits (x : Float) : Float :=
  match DoubleValue.ofFloat x with
  | .finite negative significand exponent =>
      if significand = 0 then x
      else
        let (numerator, denominator) := DoubleValue.magnitude significand exponent
        let place := Decimal.decimalOrder numerator denominator - 16
        let up := if 0 ≤ place then 1 else Nat.pow 10 (-place).toNat
        let down := if 0 ≤ place then Nat.pow 10 place.toNat else 1
        let dividend := numerator * up
        let divisor := denominator * down
        let below := dividend / divisor
        let twice := 2 * (dividend % divisor)
        let digits :=
          if twice < divisor ∨ (twice = divisor ∧ below % 2 = 0) then below else below + 1
        let kept := Decimal.toFloat digits place
        if negative then -kept else kept
  | _ => x

/-- The text of a number: without a point when it is whole. -/
def numberText (x : Float) : String :=
  let kept := keepDigits x
  match DoubleValue.ofFloat kept with
  | .finite negative significand exponent =>
      let floor := DoubleValue.floor negative significand exponent
      if floor = DoubleValue.ceil negative significand exponent then toString floor
      else Decimal.ofFloat kept
  | _ => ""

namespace Cell

/-- Whether a cell has a value; that of a formula is not known. -/
def hasValue : Cell → Bool
  | .empty | .formula _ => false
  | _ => true

/-- The text of a cell in the header of a table. -/
def headerText : Cell → String
  | .empty | .formula _ => ""
  | .errorCode _ => "nan"
  | .text value => value
  | .number value => numberText value
  | .flag value => if value then "True" else "False"

/-- The value of a cell below the header, absent when it is missing. -/
def dataText? : Cell → Option String
  | .empty | .formula _ | .errorCode _ => none
  | .text value => if missingSpellings.contains value then none else some value
  | cell => some cell.headerText

/-- What a reader of the sheet sees in a cell of texts. -/
def shownText : Cell → String
  | .formula source => source
  | .errorCode code => code
  | cell => cell.headerText

end Cell

/-- The number of cells of a row up to the last one with a value. -/
def width (row : List Cell) : Nat :=
  (row.reverse.dropWhile fun cell => !cell.hasValue).length

/-- Whether a row holds nothing but white space. -/
def isBlankRow (row : List Cell) : Bool :=
  row.all fun cell => match cell with
    | .text value => (Text.trim value).isEmpty
    | cell => !cell.hasValue

/-- The rows from the header on: in a sheet of a single column, blank rows above the header do not
count. -/
def fromHeader (rows : List (List Cell)) : List (List Cell) :=
  if rows.all (width · ≤ 1) then rows.dropWhile isBlankRow else rows

/-- Read a sheet as a table. -/
def table (rows : List (List Cell)) : Table :=
  match fromHeader rows with
  | [] => ⟨[], []⟩
  | header :: rows =>
      { columns := Table.nameColumns (header.map Cell.headerText)
        rows := rows.map fun row => row.map Cell.dataText? }

/-- The sheet with a title in any letter case, or else the sheet at a position. -/
def sheet? (sheets : Sheets) (title : String) (position : Nat) : Option (List (List Cell)) :=
  match sheets.find? fun sheet => Text.foldKey sheet.1 == Text.foldKey title with
  | some sheet => some sheet.2
  | none => (sheets[position]?).map (·.2)

/-- Title of the sheet of nodes. -/
def nodesTitle : String := "Nodes"

/-- Title of the sheet of edges. -/
def edgesTitle : String := "Edges"

/-- The prompt of a workbook that was found under a path. -/
def prompt (path : String) (sheets : Sheets) : Except TableError String :=
  match sheet? sheets nodesTitle 0 with
  | none => .error (.noSheet path)
  | some nodes => Table.prompt (table nodes) ((sheet? sheets edgesTitle 1).map table)

/-- The first text, column by column, that cannot stand in a cell. -/
def unwritable? (rows : List (List String)) (width : Nat) : Option String :=
  (List.range width).findSome? fun column =>
    rows.findSome? fun row => (row[column]?).filter fun text => text.toList.any isUnwritable

/-- A sheet of texts below a header. -/
def sheetOf (title : String) (header : List String) (rows : List (List String)) :
    Except TableError (String × List (List Cell)) :=
  match unwritable? rows header.length with
  | some text => .error (.unwritableText text)
  | none => do
      let cells ← (header :: rows).mapM fun row => row.mapM Cell.ofText
      return (title, cells)

/-- The workbook of a diagram. -/
def ofGraph {α : Type} (graph : Graph α) : Except TableError Sheets := do
  let nodes ← sheetOf nodesTitle NodeRow.columns (graph.nodeRows.map NodeRow.cells)
  let edges ← sheetOf edgesTitle EdgeRow.columns (graph.edgeRows.map EdgeRow.cells)
  return [nodes, edges]

end Workbook
end ClusterDiagram
