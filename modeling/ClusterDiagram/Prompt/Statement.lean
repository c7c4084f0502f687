import ClusterDiagram.Prompt.Attributes

/-!
# Statements

Every line of a prompt is one statement or is passed over. A cluster line carries its indentation,
the number of blanks and tabs before it; node and edge lines may carry attributes in brackets. The
leading words are read in any letter case.
-/

namespace ClusterDiagram

/-- What a line says. -/
inductive Statement where
  /-- A cluster begins. -/
  | cluster (indent : Nat) (label : String)
  /-- A node of the current cluster. -/
  | node (label : String) (name : Option String)
  /-- An edge between two references. -/
  | edge (source target : String) (attributes : List (String × String))
  deriving DecidableEq, Repr

namespace Statement

/-- Whether a character is a given small letter in either case; the long s counts as an s. -/
def isLetter (letter c : Char) : Bool :=
  c.toLower == letter || (letter == 's' && c == 'ſ')

/-- Drop a leading word in any letter case. -/
def dropWord? : List Char → List Char → Option (List Char)
  | [], cs => some cs
  | _ :: _, [] => none
  | letter :: word, c :: cs => if isLetter letter c then dropWord? word cs else none

/-- The label of a trimmed cluster line. -/
def clusterLabel? (line : List Char) : Option (List Char) :=
  match dropWord? "cluster:".toList line with
  | none => none
  | some rest =>
      match rest.dropWhile Text.isBlank with
      | [] => none
      | label => some label

/-- Split a list before the last character when that is a closing bracket. -/
def dropClosing? (cs : List Char) : Option (List Char) :=
  if cs.getLast? = some ']' then some cs.dropLast else none

/-- The label and the attributes of a trimmed node line. A label holds no opening bracket, and what
follows one must reach to the end of the line. -/
def nodeParts? (line : List Char) : Option (List Char × List Char) :=
  match dropWord? "node:".toList line with
  | none => none
  | some rest =>
      let body := rest.dropWhile Text.isBlank
      let label := body.takeWhile (· != '[')
      match body.dropWhile (· != '[') with
      | [] => if label.isEmpty then none else some (Text.trimChars label, [])
      | _ :: inner =>
          if label.isEmpty && !(rest.head?.any Text.isBlank) then none
          else (dropClosing? inner).map fun attributes => (Text.trimChars label, attributes)

/-- Split at the first arrow that is not at the start; `before` is the part already passed,
reversed. -/
def splitArrow? (before : List Char) : List Char → Option (List Char × List Char)
  | [] => none
  | '-' :: '>' :: rest =>
      if before.isEmpty then splitArrow? ('-' :: before) ('>' :: rest)
      else some (before.reverse, rest)
  | c :: rest => splitArrow? (c :: before) rest

/-- Split the target of an edge line from its attributes, which begin at the first opening bracket
that is not at the start and reach to the end of the line. -/
def splitTarget (cs : List Char) : List Char × List Char :=
  match cs with
  | [] => ([], [])
  | c :: rest =>
      match rest.dropWhile (· != '[') with
      | [] => (cs, [])
      | _ :: inner =>
          match dropClosing? inner with
          | none => (cs, [])
          | some attributes => (c :: rest.takeWhile (· != '['), attributes)

/-- The source, the target and the attributes of a trimmed edge line. -/
def edgeParts? (line : List Char) : Option (List Char × List Char × List Char) :=
  match splitArrow? [] line with
  | none => none
  | some (source, rest) =>
      match rest.dropWhile Text.isBlank with
      | [] => none
      | body =>
          let (target, attributes) := splitTarget body
          some (Text.trimChars source, Text.trimChars target, attributes)

/-- The number of blanks and tabs at the start of a line. -/
def indentOf (line : List Char) : Nat :=
  (line.takeWhile fun c => c == ' ' || c == '\t').length

/-- Read a line. -/
def ofLine? (line : List Char) : Option Statement :=
  let trimmed := Text.trimChars line
  match clusterLabel? trimmed with
  | some label => some (.cluster (indentOf line) (String.ofList label))
  | none =>
      match nodeParts? trimmed with
      | some (label, attributes) =>
          some (.node (String.ofList label) (Attributes.find? "name" (Attributes.ofChars attributes)))
      | none =>
          match edgeParts? trimmed with
          | some (source, target, attributes) =>
              some (.edge (String.ofList source) (String.ofList target)
                (Attributes.ofChars attributes))
          | none => none

/-- The statements of a text in order. -/
def ofText (text : String) : List Statement :=
  (Text.splitLines text).filterMap ofLine?

end Statement

end ClusterDiagram
