import ClusterDiagram.Assoc
import ClusterDiagram.Decimal.Reader
import ClusterDiagram.Json.Value

/-!
# Reading documents

A document is read from text in one pass. Every error names the first character that cannot be
continued, by line, column and index. Of two fields with one key the later value stays, in the
place of the earlier.
-/

namespace ClusterDiagram
namespace Json

/-- What is wrong at a place of the text. -/
inductive ReadFault where
  /-- A document should begin here. -/
  | value
  /-- Something follows the document. -/
  | extraData
  /-- The name of a field should begin here. -/
  | fieldName
  /-- A colon should stand here. -/
  | colon
  /-- A comma should stand here. -/
  | comma
  /-- The text that begins here has no end. -/
  | unterminated
  /-- A control character stands inside a text. -/
  | control
  /-- A backslash is followed by no escape. -/
  | escape
  /-- An escape by number lacks its digits. -/
  | unicodeEscape
  /-- The text begins with a byte order mark. -/
  | byteOrderMark
  deriving DecidableEq, Repr

/-- The text of a fault. -/
def ReadFault.message : ReadFault → String
  | .value => "Expecting value"
  | .extraData => "Extra data"
  | .fieldName => "Expecting property name enclosed in double quotes"
  | .colon => "Expecting ':' delimiter"
  | .comma => "Expecting ',' delimiter"
  | .unterminated => "Unterminated string starting at"
  | .control => "Invalid control character at"
  | .escape => "Invalid \\escape"
  | .unicodeEscape => "Invalid \\uXXXX escape"
  | .byteOrderMark => "Unexpected UTF-8 BOM (decode using utf-8-sig)"

/-- Why a text is no document. -/
inductive ReadError where
  /-- A fault at the character with the given index. -/
  | fault (fault : ReadFault) (position : Nat)
  /-- An integer of more digits than are read. -/
  | tooManyDigits (count : Nat)
  deriving DecidableEq, Repr

/-- The text of a read error, with the line and column of its place in the text. -/
def ReadError.message (text : List Char) : ReadError → String
  | .fault kind position =>
      let before := text.take position
      let line := before.count '\n' + 1
      let column := (before.reverse.takeWhile (· != '\n')).length + 1
      s!"{kind.message}: line {line} column {column} (char {position})"
  | .tooManyDigits count =>
      "Exceeds the limit (4300 digits) for integer string conversion: value has " ++
        toString count ++
        " digits; use sys.set_int_max_str_digits() to increase the limit"

/-- What is left of the text, with the index of its first character. -/
structure Cursor where
  /-- Characters not read yet. -/
  rest : List Char
  /-- Index of the first of them. -/
  position : Nat

/-- Whether a character separates parts of a document. -/
def isSeparator (c : Char) : Bool :=
  c == ' ' || c == '\t' || c == '\n' || c == '\r'

namespace Cursor

/-- Move over some characters. -/
def advance (cursor : Cursor) (count : Nat) : Cursor :=
  ⟨cursor.rest.drop count, cursor.position + count⟩

/-- Move over separators. -/
def skip (cursor : Cursor) : Cursor :=
  cursor.advance (cursor.rest.takeWhile isSeparator).length

/-- Fail at the present place. -/
def fail {ρ : Type} (cursor : Cursor) (fault : ReadFault) : Except ReadError ρ :=
  .error (.fault fault cursor.position)

end Cursor

/-- The value of a hexadecimal digit. -/
def hexValue? (c : Char) : Option Nat :=
  if '0' ≤ c ∧ c ≤ '9' then some (c.toNat - 48)
  else if 'a' ≤ c ∧ c ≤ 'f' then some (c.toNat - 87)
  else if 'A' ≤ c ∧ c ≤ 'F' then some (c.toNat - 55)
  else none

/-- Four hexadecimal digits at the start of a list, when more follows. -/
def hexQuad? : List Char → Option Nat
  | a :: b :: c :: d :: _ :: _ => do
      return (((← hexValue? a) * 16 + (← hexValue? b)) * 16 + (← hexValue? c)) * 16 + (← hexValue? d)
  | _ => none

/-- The character that a one-letter escape stands for. -/
def simpleEscape? (c : Char) : Option Char :=
  match c with
  | '"' => some '"'
  | '\\' => some '\\'
  | '/' => some '/'
  | 'b' => some '\x08'
  | 'f' => some '\x0c'
  | 'n' => some '\n'
  | 'r' => some '\r'
  | 't' => some '\t'
  | _ => none

/-- Read a text after its opening quote at index `start`; `read` holds its characters so far,
reversed. -/
def readText (start : Nat) : Nat → List Char → Cursor → Except ReadError (String × Cursor)
  | 0, _, _ => .error (.fault .unterminated start)
  | fuel + 1, read, cursor =>
      match cursor.rest with
      | [] => .error (.fault .unterminated start)
      | '"' :: _ => .ok (String.ofList read.reverse, cursor.advance 1)
      | '\\' :: [] => .error (.fault .unterminated start)
      | '\\' :: 'u' :: digits =>
          match hexQuad? digits with
          | none => (cursor.advance 1).fail .unicodeEscape
          | some code =>
              if 0xd800 ≤ code ∧ code ≤ 0xdbff then
                match digits.drop 4 with
                | '\\' :: 'u' :: low =>
                    match hexQuad? low with
                    | none =>
                        if low.length ≤ 4 then
                          readText start fuel ('\ufffd' :: read) (cursor.advance 6)
                        else (cursor.advance 7).fail .unicodeEscape
                    | some second =>
                        if 0xdc00 ≤ second ∧ second ≤ 0xdfff then
                          let joined := 0x10000 + (code - 0xd800) * 0x400 + (second - 0xdc00)
                          readText start fuel (Char.ofNat joined :: read) (cursor.advance 12)
                        else readText start fuel ('\ufffd' :: read) (cursor.advance 6)
                | _ => readText start fuel ('\ufffd' :: read) (cursor.advance 6)
              else if 0xdc00 ≤ code ∧ code ≤ 0xdfff then
                readText start fuel ('\ufffd' :: read) (cursor.advance 6)
              else readText start fuel (Char.ofNat code :: read) (cursor.advance 6)
      | '\\' :: c :: _ =>
          match simpleEscape? c with
          | none => cursor.fail .escape
          | some plain => readText start fuel (plain :: read) (cursor.advance 2)
      | c :: _ =>
          if c.toNat < 0x20 then cursor.fail .control
          else readText start fuel (c :: read) (cursor.advance 1)

/-- The value of a run of decimal digits. -/
def digitsValue (digits : List Char) : Nat :=
  digits.foldl (fun value c => value * 10 + (c.toNat - 48)) 0

/-- Read a number, if one starts here. -/
def readNumber? (cursor : Cursor) : Option (Except ReadError (Json Float × Cursor)) :=
  let (negative, body) := match cursor.rest with
    | '-' :: rest => (true, rest)
    | rest => (false, rest)
  let whole := match body with
    | '0' :: _ => ['0']
    | rest => rest.takeWhile Char.isDigit
  if whole.isEmpty then none
  else
    let afterWhole := body.drop whole.length
    let places := match afterWhole with
      | '.' :: rest => rest.takeWhile Char.isDigit
      | _ => []
    let pointSize := if places.isEmpty then 0 else places.length + 1
    let afterPlaces := afterWhole.drop pointSize
    let (mark, power, powerSize) : List Char × Int × Nat := match afterPlaces with
      | e :: rest =>
          if e = 'e' ∨ e = 'E' then
            let (below, sign, digits) := match rest with
              | '-' :: digits => (true, 1, digits.takeWhile Char.isDigit)
              | '+' :: digits => (false, 1, digits.takeWhile Char.isDigit)
              | digits => (false, 0, digits.takeWhile Char.isDigit)
            if digits.isEmpty then ([], 0, 0)
            else
              let value : Int := digitsValue digits
              ([e], if below then -value else value, 1 + sign + digits.length)
          else ([], 0, 0)
      | [] => ([], 0, 0)
    let size := (if negative then 1 else 0) + whole.length + pointSize + powerSize
    let next := cursor.advance size
    if places.isEmpty && mark.isEmpty then
      if 4300 < whole.length then some (.error (.tooManyDigits whole.length))
      else
        let value : Int := digitsValue whole
        some (.ok (.int (if negative then -value else value), next))
    else
      let magnitude := Decimal.toFloat (digitsValue (whole ++ places)) (power - places.length)
      some (.ok (.real (if negative then -magnitude else magnitude), next))

/-- Read one of the words of the format, if one starts here. -/
def readWord? (cursor : Cursor) : Option (Json Float × Cursor) :=
  let words : List (String × Json Float) :=
    [("null", .null), ("true", .bool true), ("false", .bool false), ("NaN", .real (0.0 / 0.0)),
      ("Infinity", .real (1.0 / 0.0)), ("-Infinity", .real (-1.0 / 0.0))]
  (words.find? fun word => word.1.toList.isPrefixOf cursor.rest).map fun word =>
    (word.2, cursor.advance word.1.length)

mutual

/-- Read one document. The fuel bounds the number of documents and fields still to be read. -/
def readValue : Nat → Cursor → Except ReadError (Json Float × Cursor)
  | 0, cursor => cursor.fail .value
  | fuel + 1, cursor =>
      match cursor.rest with
      | '"' :: _ => do
          let (value, next) ← readText cursor.position (cursor.rest.length + 1) [] (cursor.advance 1)
          return (.text value, next)
      | '\x7b' :: _ =>
          let inside := (cursor.advance 1).skip
          match inside.rest with
          | '\x7d' :: _ => .ok (.object [], inside.advance 1)
          | _ => readFields fuel [] inside
      | '[' :: _ =>
          let inside := (cursor.advance 1).skip
          match inside.rest with
          | ']' :: _ => .ok (.list [], inside.advance 1)
          | _ => readItems fuel [] inside
      | _ =>
          match readWord? cursor with
          | some result => .ok result
          | none => (readNumber? cursor).getD (cursor.fail .value)

/-- Read the items of a list up to its end; `items` holds those before, reversed. -/
def readItems : Nat → List (Json Float) → Cursor → Except ReadError (Json Float × Cursor)
  | 0, _, cursor => cursor.fail .value
  | fuel + 1, items, cursor => do
      let (item, next) ← readValue fuel cursor
      let next := next.skip
      match next.rest with
      | ']' :: _ => return (.list (item :: items).reverse, next.advance 1)
      | ',' :: _ => readItems fuel (item :: items) (next.advance 1).skip
      | _ => next.fail .comma

/-- Read the fields of an object up to its end; `fields` holds those before. -/
def readFields : Nat → List (String × Json Float) → Cursor → Except ReadError (Json Float × Cursor)
  | 0, _, cursor => cursor.fail .value
  | fuel + 1, fields, cursor =>
      match cursor.rest with
      | '"' :: _ => do
          let (key, next) ← readText cursor.position (cursor.rest.length + 1) [] (cursor.advance 1)
          let next := next.skip
          match next.rest with
          | ':' :: _ =>
              let (value, next) ← readValue fuel (next.advance 1).skip
              let fields := Assoc.put key value fields
              let next := next.skip
              match next.rest with
              | '\x7d' :: _ => return (.object fields, next.advance 1)
              | ',' :: _ => readFields fuel fields (next.advance 1).skip
              | _ => next.fail .comma
          | _ => next.fail .colon
      | _ => cursor.fail .fieldName

end

/-- Read a text that holds one document. -/
def readChars (text : List Char) : Except ReadError (Json Float) :=
  let start : Cursor := ⟨text, 0⟩
  match text with
  | '\ufeff' :: _ => start.fail .byteOrderMark
  | _ => do
      let (value, next) ← readValue (2 * text.length + 2) start.skip
      let next := next.skip
      if next.rest.isEmpty then return value else next.fail .extraData

/-- Read a text that holds one document, or say why it does not. -/
def read (text : String) : Except ReadError (Json Float) :=
  readChars text.toList

end Json
end ClusterDiagram
