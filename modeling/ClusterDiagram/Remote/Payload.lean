import ClusterDiagram.Graph.Document

/-!
# Payloads

A payload is a diagram answered by a parse service. Reading is strict about the shape: the three lists
must be there, ids and labels must be texts and coordinates numbers. Every breach is counted before the
payload is refused. Absent names and coordinates are filled in, and so are the ids of edges.
-/

namespace ClusterDiagram

/-- Why a payload is refused. -/
inductive PayloadError where
  /-- A document of the given kind stands in place of an object. -/
  | notAnObject (kind : String)
  /-- So many parts of the payload are missing or of the wrong kind. -/
  | malformed (count : Nat)
  deriving DecidableEq, Repr

/-- The text of a payload error. -/
def PayloadError.message : PayloadError → String
  | .notAnObject kind => "Parse service returned " ++ kind ++ ", expected an object"
  | .malformed count => "Malformed parse service response: " ++ toString count ++ " error(s)"

namespace Payload

/-! ## Counting errors -/

/-- A value, or the number of errors that stand against it. -/
abbrev Checked (β : Type) := Except Nat β

/-- Join two values; the errors of both count. -/
def both {β γ : Type} : Checked β → Checked γ → Checked (β × γ)
  | .ok first, .ok second => .ok (first, second)
  | .error count, .ok _ => .error count
  | .ok _, .error count => .error count
  | .error first, .error second => .error (first + second)

/-- Join the values of a list; the errors of all count. -/
def all {β : Type} : List (Checked β) → Checked (List β)
  | [] => .ok []
  | item :: items => (both item (all items)).map fun (value, values) => value :: values

/-! ## Numbers as texts -/

/-- Whether a character is white space around a number. -/
def isNumberBlank (c : Char) : Bool :=
  Text.isBlank c && !(0x1c ≤ c.toNat && c.toNat ≤ 0x1f)

/-- Read a number written with the digits from zero to nine only. -/
def readPlain? (cs : List Char) : Option Float :=
  if cs.all fun c => c.toNat < 0x80 && c != '_' then Decimal.readChars? cs else none

/-- Whether underscores stand inside a text only, and never two in a row. -/
def hasInnerUnderscores (cs : List Char) : Bool :=
  cs.contains '_' && cs.head? != some '_' && cs.getLast? != some '_' &&
    !Text.occursIn ['_', '_'] cs

/-- Read a number, white space around it aside; a text with underscores is read without them. -/
def readNumber? (text : String) : Option Float :=
  let cs := text.toList
  match readPlain? (Text.trimWhile isNumberBlank cs) with
  | some value => some value
  | none => if hasInnerUnderscores cs then readPlain? (cs.filter (· != '_')) else none

variable {α : Type} [Scalar α]

/-! ## Fields -/

/-- The value of the first of some fields that is there. -/
def field? (names : List String) (fields : List (String × Json α)) : Option (Json α) :=
  names.findSome? fun name => Json.find? name fields

/-- A text that must be there. -/
def requiredText (names : List String) (fields : List (String × Json α)) : Checked String :=
  match field? names fields with
  | some (.text value) => .ok value
  | _ => .error 1

/-- A text that may be absent. -/
def optionalText (names : List String) (fields : List (String × Json α)) :
    Checked (Option String) :=
  match field? names fields with
  | none | some .null => .ok none
  | some (.text value) => .ok (some value)
  | some _ => .error 1

/-- A number that may be absent; a truth value counts as one or zero. -/
def optionalNumber (name : String) (fields : List (String × Json α)) : Checked (Option α) :=
  match Json.find? name fields with
  | none | some .null => .ok none
  | some (.bool value) => .ok (some ((value.toNat : Nat) : α))
  | some (.real value) => .ok (some value)
  | some (.int value) =>
      match Scalar.ofInt? value with
      | some x => .ok (some x)
      | none => .error 1
  | some (.text value) =>
      match readNumber? value with
      | some x => .ok (some (Scalar.ofFloat x))
      | none => .error 1
  | some _ => .error 1

/-- A list of entities that must be there. -/
def requiredList {β : Type} (name : String) (read : List (String × Json α) → Checked β)
    (fields : List (String × Json α)) : Checked (List β) :=
  match Json.find? name fields with
  | some (.list items) =>
      all (items.map fun item =>
        match item with
        | .object fields => read fields
        | _ => .error 1)
  | _ => .error 1

/-! ## Entities -/

/-- Read a cluster. -/
def cluster (fields : List (String × Json α)) : Checked (Cluster α) := do
  let ((id, label), parent, x, y) ←
    both (both (requiredText ["id"] fields) (requiredText ["label"] fields))
      (both (optionalText ["parentId", "parent_id"] fields)
        (both (optionalNumber "x" fields) (optionalNumber "y" fields)))
  return { id, label, parent := Text.nonempty parent, x, y }

/-- The coordinate of a node, zero when absent. -/
def coordinate (value : Option α) : α :=
  Scalar.normalizeZero (value.getD ((0 : Nat) : α))

/-- Read a node. -/
def node (fields : List (String × Json α)) : Checked (Node α) := do
  let ((id, label), (name, cluster), x, y) ←
    both (both (requiredText ["id"] fields) (requiredText ["label"] fields))
      (both (both (optionalText ["name"] fields) (optionalText ["clusterId", "cluster_id"] fields))
        (both (optionalNumber "x" fields) (optionalNumber "y" fields)))
  return {
    id, label
    name := Text.nonempty name
    x := coordinate x
    y := coordinate y
    cluster := Text.nonempty cluster }

/-- The label of an edge: the first of two texts that is not blank, trimmed. -/
def edgeLabel (label misspelt : Option String) : Option String :=
  [label, misspelt].findSome? fun text => Text.nonempty (text.map Text.trim)

/-- An edge whose id is settled with its index. -/
abbrev EdgeDraft := Nat → Edge

/-- Read an edge. -/
def edge (fields : List (String × Json α)) : Checked EdgeDraft := do
  let ((source, target), (id, style), label, misspelt) ←
    both (both (requiredText ["from", "source"] fields) (requiredText ["to", "target"] fields))
      (both (both (optionalText ["id"] fields) (optionalText ["type"] fields))
        (both (optionalText ["label"] fields) (optionalText ["lable"] fields)))
  return fun index =>
    { id := (Text.nonempty id).getD ("e-" ++ source ++ "-" ++ target ++ "-" ++ toString index)
      source, target
      label := edgeLabel label misspelt
      style := EdgeStyle.ofText? style }

end Payload

variable {α : Type} [Scalar α]

/-- Read a payload. -/
def Graph.ofPayload (document : Json α) : Except PayloadError (Graph α) :=
  match document with
  | .object fields =>
      let parts := Payload.both
        (Payload.both (Payload.requiredList "clusters" Payload.cluster fields)
          (Payload.requiredList "nodes" Payload.node fields))
        (Payload.both (Payload.requiredList "edges" Payload.edge fields)
          (Payload.optionalText ["message"] fields))
      match parts with
      | .ok ((clusters, nodes), edges, _) =>
          .ok { clusters, nodes, edges := edges.mapIdx fun index edge => edge index }
      | .error count => .error (.malformed count)
  | document => .error (.notAnObject document.kind)

end ClusterDiagram
