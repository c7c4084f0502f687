import ClusterDiagram.Tables.Basic

/-!
# Delimited text

A delimited text has one record on each line and commas between the fields. A field that starts with a
quote ends at the next single quote mark and may hold commas and line ends; a doubled quote mark
stands for one. Elsewhere a quote mark is an ordinary character. Lines of blanks hold no record.

The first record names the columns. The record after it may be longer, in which case its first fields
are row titles and no cells; a shorter record is filled up and any later longer one is an error.
-/

namespace ClusterDiagram
namespace Delimited

/-- Where the scanner stands. -/
inductive Place where
  /-- At the start of a line. -/
  | lineStart
  /-- After the given blanks at the start of a line, reversed. -/
  | blanks (read : List Char)
  /-- At the start of a field. -/
  | fieldStart
  /-- Inside a field. -/
  | field
  /-- Inside quotes. -/
  | quoted
  /-- After a quote mark inside quotes. -/
  | quoteMark
  /-- After a carriage return that ends a record. -/
  | recordReturn
  /-- After a carriage return that ends a line of blanks; a comma that follows is passed over. -/
  | blankReturn
  deriving DecidableEq, Repr

/-- A record, with the number of its last line. -/
structure Record where
  /-- Number of lines up to the end of the record. -/
  line : Nat
  /-- The fields. -/
  fields : List String
  deriving DecidableEq, Repr

/-- What has been scanned. -/
structure Scan where
  /-- Where the scanner stands. -/
  place : Place := .lineStart
  /-- Number of lines that are complete. -/
  lines : Nat := 0
  /-- Complete records, reversed. -/
  records : List Record := []
  /-- Complete fields of the current record, reversed. -/
  fields : List String := []
  /-- Characters of the current field, reversed. -/
  read : List Char := []

namespace Scan

/-- Whether a character is a space or a tab. -/
def isSpace (c : Char) : Bool :=
  c == ' ' || c == '\t'

/-- Add a character to the current field. -/
def push (scan : Scan) (c : Char) : Scan :=
  { scan with read := c :: scan.read, place := .field }

/-- End the current field. -/
def endField (scan : Scan) : Scan :=
  { scan with
    fields := String.ofList scan.read.reverse :: scan.fields
    read := []
    place := .fieldStart }

/-- End the current record. -/
def endRecord (scan : Scan) : Scan :=
  { scan with
    lines := scan.lines + 1
    records := ⟨scan.lines + 1, scan.fields.reverse⟩ :: scan.records
    fields := []
    place := .lineStart }

/-- End a line of blanks. -/
def endBlank (scan : Scan) (place : Place) : Scan :=
  { scan with lines := scan.lines + 1, place }

/-- Take in a character outside quotes, at which a field may end. -/
def unquoted (scan : Scan) (c : Char) : Scan :=
  if c = '\n' then scan.endField.endRecord
  else if c = '\r' then { scan.endField with place := .recordReturn }
  else if c = ',' then scan.endField
  else scan.push c

/-- Take in the first character of a field. -/
def startField (scan : Scan) (c : Char) : Scan :=
  if c = '"' then { scan with place := .quoted } else scan.unquoted c

/-- Take in the first character of a line. -/
def startLine (scan : Scan) (c : Char) : Scan :=
  if c = '\n' then scan.endBlank .lineStart
  else if c = '\r' then scan.endBlank .blankReturn
  else if isSpace c then { scan with place := .blanks [c] }
  else scan.startField c

/-- Take in one character. -/
def step (scan : Scan) (c : Char) : Scan :=
  match scan.place with
  | .lineStart => scan.startLine c
  | .blanks read =>
      if c = '\n' then scan.endBlank .lineStart
      else if c = '\r' then scan.endBlank .blankReturn
      else if isSpace c then { scan with place := .blanks (c :: read) }
      else unquoted { scan with read } c
  | .fieldStart => scan.startField c
  | .field => scan.unquoted c
  | .quoted =>
      if c = '"' then { scan with place := .quoteMark } else { scan.push c with place := .quoted }
  | .quoteMark =>
      if c = '"' then { scan.push c with place := .quoted } else scan.unquoted c
  | .recordReturn => if c = '\n' then scan.endRecord else scan.endRecord.startLine c
  | .blankReturn =>
      if c = '\n' ∨ c = ',' then { scan with place := .lineStart }
      else startLine { scan with place := .lineStart } c

/-- End the text. -/
def finish (scan : Scan) : Scan :=
  match scan.place with
  | .fieldStart | .field | .quoteMark => scan.endField.endRecord
  | .recordReturn => scan.endRecord
  | _ => scan

end Scan

/-- Scan a whole text, a byte order mark at its start aside. -/
def scan (text : List Char) : Scan :=
  let body := match text with
    | '\ufeff' :: rest => rest
    | text => text
  (body.foldl Scan.step {}).finish

/-- Fill records up to the number of fields of the one before, or fail at one that has more. -/
def alignFrom (width : Nat) : List Record → Except TableError (List (List String))
  | [] => .ok []
  | record :: records =>
      let size := record.fields.length
      if width < size then .error (.tooManyFields width record.line size)
      else do
        let rest ← alignFrom width records
        return (record.fields ++ List.replicate (width - size) "") :: rest

/-- Align the records below a header. -/
def align (header : Record) : List Record → Except TableError (List (List String))
  | [] => .ok []
  | first :: records =>
      alignFrom (Max.max header.fields.length first.fields.length) (first :: records)

/-- Read a table. -/
def table (text : String) : Except TableError Table := do
  let scanned := scan text.toList
  match scanned.records.reverse with
  | [] => throw (if scanned.place = .quoted then .openQuote scanned.lines else .noHeader)
  | header :: records =>
      let rows ← align header records
      if scanned.place = .quoted then throw (.openQuote scanned.lines)
      else
        let width := header.fields.length
        return {
          columns := Table.nameColumns header.fields
          rows := rows.map fun row => (row.drop (row.length - width)).map some }

/-- Whether a field is written between quotes. -/
def needsQuotes (field : List Char) : Bool :=
  field.isEmpty || field.any fun c =>
    c == '"' || c == ',' || c == '\n' || c == '\r' || Scan.isSpace c

/-- A written field. -/
def writeField (field : String) : List Char :=
  if needsQuotes field.toList then
    '"' :: (field.toList.flatMap fun c => if c = '"' then ['"', '"'] else [c]) ++ ['"']
  else field.toList

/-- A written record, with its line end. -/
def writeRecord (fields : List String) : List Char :=
  [','].intercalate (fields.map writeField) ++ ['\n']

/-- Write records, one on each line. -/
def write (records : List (List String)) : String :=
  String.ofList (records.flatMap writeRecord)

end Delimited
end ClusterDiagram
