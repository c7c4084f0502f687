import ClusterDiagram.Assoc
import ClusterDiagram.Text.Blank

/-!
# Assignments

A file of settings holds one assignment on each line, `name=value`, which may follow the word `export`.
A value between quotes may hold escapes and run over several lines; a value without quotes ends at a
blank before a number sign. A value may refer to earlier ones by `$` and a name in braces. A line
that cannot be read is passed over.
-/

namespace ClusterDiagram
namespace Assignments

/-- Whether a character is white space inside a line. -/
def isInlineBlank (c : Char) : Bool :=
  Text.isBlank c && c != '\n' && c != '\r'

/-- Whether a character goes on to the end of its line. -/
def isInline (c : Char) : Bool :=
  c != '\n' && c != '\r'

/-- Split a quoted value, its opening quote already read, from what follows. It ends at the first
quote without a backslash before it, or else at the last quote. -/
def takeQuoted? (quote : Char) : List Char → Option (List Char × List Char)
  | [] => none
  | '\\' :: c :: rest =>
      if c = quote then
        match takeQuoted? quote rest with
        | some (value, after) => some ('\\' :: quote :: value, after)
        | none => some (['\\'], rest)
      else (takeQuoted? quote (c :: rest)).map fun taken => ('\\' :: taken.1, taken.2)
  | c :: rest =>
      if c = quote then some ([], rest)
      else (takeQuoted? quote rest).map fun taken => (c :: taken.1, taken.2)

/-- The escapes between single quotes. -/
def singleEscapes : List (Char × Char) :=
  [('\\', '\\'), ('\'', '\'')]

/-- The escapes between double quotes. -/
def doubleEscapes : List (Char × Char) :=
  [('\\', '\\'), ('\'', '\''), ('"', '"'), ('a', '\x07'), ('b', '\x08'), ('f', '\x0c'),
    ('n', '\n'), ('r', '\r'), ('t', '\t'), ('v', '\x0b')]

/-- Resolve the escapes of a value. -/
def unescape (escapes : List (Char × Char)) : List Char → List Char
  | [] => []
  | '\\' :: c :: rest =>
      match escapes.lookup c with
      | some meant => meant :: unescape escapes rest
      | none => '\\' :: unescape escapes (c :: rest)
  | c :: rest => c :: unescape escapes rest

/-- The part of a line before the first white space that a number sign follows. -/
def beforeComment : List Char → List Char
  | [] => []
  | c :: rest =>
      if Text.isBlank c && (rest.dropWhile Text.isBlank).head? == some '#' then []
      else c :: beforeComment rest

/-- Read a value, and what follows it. -/
def takeValue? (cs : List Char) : Option (List Char × List Char) :=
  match cs with
  | '\'' :: rest =>
      (takeQuoted? '\'' rest).map fun taken => (unescape singleEscapes taken.1, taken.2)
  | '"' :: rest =>
      (takeQuoted? '"' rest).map fun taken => (unescape doubleEscapes taken.1, taken.2)
  | cs => some (Text.trimRightChars (beforeComment (cs.takeWhile isInline)), cs.dropWhile isInline)

/-- Read a name, and what follows it; a comment has no name. -/
def takeName? (cs : List Char) : Option (Option (List Char) × List Char) :=
  match cs with
  | '#' :: _ => some (none, cs)
  | '\'' :: rest =>
      let name := rest.takeWhile (· != '\'')
      match rest.drop name.length with
      | _ :: after => if name.isEmpty then none else some (some name, after)
      | [] => none
  | cs =>
      let isNameChar (c : Char) := c != '=' && c != '#' && !Text.isBlank c
      let name := cs.takeWhile isNameChar
      if name.isEmpty then none else some (some name, cs.drop name.length)

/-- Drop a comment. -/
def dropComment (cs : List Char) : List Char :=
  match cs.dropWhile isInlineBlank with
  | '#' :: rest => rest.dropWhile isInline
  | _ => cs

/-- Drop the end of a line. -/
def dropLineEnd? (cs : List Char) : Option (List Char) :=
  match cs.dropWhile isInlineBlank with
  | [] => some []
  | '\r' :: '\n' :: rest | '\n' :: rest | '\r' :: rest => some rest
  | _ => none

/-- Drop the word `export` and the white space after it. -/
def dropExport (cs : List Char) : List Char :=
  match Text.dropLead? "export".toList cs with
  | some rest => if (rest.head?).any isInlineBlank then rest.dropWhile isInlineBlank else cs
  | none => cs

/-- Drop the rest of a line that cannot be read. -/
def dropLine (cs : List Char) : List Char :=
  (cs.dropWhile isInline).drop 1

/-- A name and its value, where the line gives one. -/
abbrev Assignment := String × Option String

/-- Read the value after a name, and what follows the line. The rest alone is left when the line
cannot be read. -/
def takeLineEnd (name : Option (List Char)) (cs : List Char) : Option Assignment × List Char :=
  let finish (value : Option (List Char)) (after : List Char) :
      Option Assignment × List Char :=
    let after := dropComment after
    match dropLineEnd? after with
    | some rest => (name.map fun name => (String.ofList name, value.map String.ofList), rest)
    | none => (none, dropLine after)
  match cs.dropWhile isInlineBlank with
  | '=' :: rest =>
      let rest := rest.dropWhile isInlineBlank
      match takeValue? rest with
      | some (value, after) => finish (some value) after
      | none => (none, dropLine rest)
  | rest => finish none rest

/-- Read one assignment, and what follows its line. -/
def takeAssignment (cs : List Char) : Option Assignment × List Char :=
  let start := dropExport cs
  match takeName? start with
  | some (name, after) => takeLineEnd name after
  | none => (none, dropLine start)

/-- Read every assignment; the fuel bounds their number. -/
def readFrom : Nat → List Char → List Assignment
  | 0, _ => []
  | fuel + 1, cs =>
      match cs.dropWhile Text.isBlank with
      | [] => []
      | start =>
          let (assignment, rest) := takeAssignment start
          assignment.toList ++ readFrom fuel rest

/-- The reference at the start of a list: its name and default, and what follows it. -/
def takeReference? (cs : List Char) : Option (List Char × List Char × List Char) :=
  match cs with
  | '$' :: '\x7b' :: rest =>
      let name := rest.takeWhile fun c => c != '\x7d' && c != ':'
      match rest.drop name.length with
      | '\x7d' :: after => some (name, [], after)
      | ':' :: '-' :: after =>
          let default := after.takeWhile (· != '\x7d')
          match after.drop default.length with
          | _ :: after => some (name, default, after)
          | [] => none
      | _ => none
  | _ => none

/-- Replace every reference by the value that `value?` gives for its name, or by its default. The
fuel bounds the number of characters. -/
def expand (value? : String → Option String) : Nat → List Char → List Char
  | 0, cs => cs
  | _, [] => []
  | fuel + 1, c :: rest =>
      match takeReference? (c :: rest) with
      | some (name, default, after) =>
          ((value? (String.ofList name)).map String.toList).getD default ++
            expand value? fuel after
      | none => c :: expand value? fuel rest

/-- Settle the assignments in order. A reference means a value of the environment, or else one
settled before. -/
def settle (environment : String → Option String) (assignments : List Assignment) :
    List Assignment :=
  assignments.foldl
    (fun settled (name, value) =>
      let value? (name : String) : Option String :=
        (environment name).or ((settled.lookup name).map fun value => value.getD "")
      Assoc.put name
        (value.map fun text => String.ofList (expand value? text.length text.toList)) settled)
    []

/-- Read the assignments of a file beside an environment. -/
def ofText (environment : String → Option String) (text : String) : List Assignment :=
  let cs := Text.joinLineEnds text.toList
  settle environment (readFrom (cs.length + 1) cs)

end Assignments
end ClusterDiagram
