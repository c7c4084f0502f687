import ClusterDiagram.Json.Value
import ClusterDiagram.Text.Printable

/-!
# Writing documents

A document is written with every item and field on a line of its own, indented by two blanks a level,
and in the characters from the blank to the tilde alone; all others are written by number.
-/

namespace ClusterDiagram
namespace Json

/-- A code unit written by number. -/
def escapeUnit (code : Nat) : List Char :=
  '\\' :: 'u' :: Text.hexDigits 4 code

/-- A character of a written text. -/
def escapeChar (c : Char) : List Char :=
  let code := c.toNat
  if c = '"' ∨ c = '\\' then ['\\', c]
  else if c = '\n' then ['\\', 'n']
  else if c = '\r' then ['\\', 'r']
  else if c = '\t' then ['\\', 't']
  else if c = '\x08' then ['\\', 'b']
  else if c = '\x0c' then ['\\', 'f']
  else if 0x20 ≤ code ∧ code ≤ 0x7e then [c]
  else if code < 0x10000 then escapeUnit code
  else
    let rest := code - 0x10000
    escapeUnit (0xd800 + rest / 0x400) ++ escapeUnit (0xdc00 + rest % 0x400)

/-- A written text. -/
def writeText (text : String) : String :=
  String.ofList ('"' :: text.toList.flatMap escapeChar ++ ['"'])

/-- A line end and the indentation of a level. -/
def newLine (level : Nat) : String :=
  String.ofList ('\n' :: List.replicate (2 * level) ' ')

variable {α : Type} [Scalar α]

/-- A written fractional number. -/
def writeReal (value : α) : String :=
  match Scalar.toText value with
  | "nan" => "NaN"
  | "inf" => "Infinity"
  | "-inf" => "-Infinity"
  | digits => digits

mutual

/-- Write a document at a level. -/
def write (level : Nat) : Json α → String
  | .null => "null"
  | .bool value => if value then "true" else "false"
  | .int value => toString value
  | .real value => writeReal value
  | .text value => writeText value
  | .list [] => "[]"
  | .list (item :: items) =>
      "[" ++ newLine (level + 1) ++ write (level + 1) item ++ writeItems (level + 1) items ++
        newLine level ++ "]"
  | .object [] => "\x7b\x7d"
  | .object ((key, value) :: fields) =>
      "\x7b" ++ newLine (level + 1) ++ writeText key ++ ": " ++ write (level + 1) value ++
        writeFields (level + 1) fields ++ newLine level ++ "\x7d"

/-- Write the items of a list after the first. -/
def writeItems (level : Nat) : List (Json α) → String
  | [] => ""
  | item :: items => "," ++ newLine level ++ write level item ++ writeItems level items

/-- Write the fields of an object after the first. -/
def writeFields (level : Nat) : List (String × Json α) → String
  | [] => ""
  | (key, value) :: fields =>
      "," ++ newLine level ++ writeText key ++ ": " ++ write level value ++
        writeFields level fields

end

end Json
end ClusterDiagram
