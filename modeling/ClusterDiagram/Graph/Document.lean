import ClusterDiagram.Decimal.Reader
import ClusterDiagram.Graph.Basic
import ClusterDiagram.Json.Value

/-!
# Diagrams as documents

A diagram is written as an object with the fields `clusters`, `nodes` and `edges`. Reading is
lenient: ids, references and labels may be of any kind, empty fields count as absent, numbers may be
given as text and unknown fields are ignored. A missing id or endpoint, an element that is no object
and an alias or a style that is no text are errors.
-/

namespace ClusterDiagram

/-- Why a document is no diagram. -/
inductive DocumentError where
  /-- A required field is missing. -/
  | missingField (name : String)
  /-- A document of the given kind stands where an object is required. -/
  | notAnObject (kind : String)
  /-- A document of the given kind stands where a list is required. -/
  | notAList (kind : String)
  /-- A text stands where an entity is required. -/
  | textAsEntity
  /-- A list stands where an entity is required. -/
  | listAsEntity
  /-- A document of the given kind stands where an entity is required. -/
  | notAnEntity (kind : String)
  /-- A document of the given kind stands where a text is required. -/
  | notText (kind : String)
  /-- A coordinate is out of range. -/
  | arithmetic (error : ArithmeticError)
  deriving DecidableEq, Repr

/-- The text of a document error. -/
def DocumentError.message : DocumentError → String
  | .missingField name => name
  | .notAnObject kind => s!"'{kind}' object has no attribute 'get'"
  | .notAList kind => s!"'{kind}' object is not iterable"
  | .textAsEntity => "string indices must be integers, not 'str'"
  | .listAsEntity => "list indices must be integers or slices, not str"
  | .notAnEntity kind => s!"'{kind}' object is not subscriptable"
  | .notText kind => s!"'{kind}' object has no attribute 'strip'"
  | .arithmetic error => error.message

variable {α : Type} [Scalar α]

namespace Json

/-- The fields of an entity. -/
def entity : Json α → Except DocumentError (List (String × Json α))
  | .object fields => .ok fields
  | .text _ => .error .textAsEntity
  | .list _ => .error .listAsEntity
  | document => .error (.notAnEntity document.kind)

/-- A field that must be there. -/
def required (name : String) (fields : List (String × Json α)) :
    Except DocumentError (Json α) :=
  match find? name fields with
  | some value => .ok value
  | none => .error (.missingField name)

/-- A text that counts as absent when it is empty. -/
def optionalText (document : Json α) : Except DocumentError (Option String) :=
  if document.isVoid then .ok none
  else match document with
    | .text value => .ok (some value)
    | document => .error (.notText document.kind)

/-- A reference or a caption, absent when it is empty; a document of another kind counts as the text
that shows it. -/
def optionalShown (document : Json α) : Option String :=
  if document.isVoid then none else some document.asText

/-- A coordinate: a number, or a text that reads as one. -/
def scalar? : Json α → Except DocumentError (Option α)
  | .int value =>
      match Scalar.ofInt? value with
      | some x => .ok (some x)
      | none => .error (.arithmetic .integerTooLarge)
  | .real value => .ok (some value)
  | .text value => .ok ((Decimal.read? value).map Scalar.ofFloat)
  | _ => .ok none

/-- A coordinate that is zero when absent. -/
def scalarOrZero (document : Json α) : Except DocumentError α := do
  return Scalar.normalizeZero ((← document.scalar?).getD ((0 : Nat) : α))

/-- The style of an edge. -/
def edgeStyle (document : Json α) : Except DocumentError EdgeStyle := do
  return EdgeStyle.ofText? (← document.optionalText)

/-- The id and the label of an entity; an empty label is replaced by the id. -/
def idAndLabel (fields : List (String × Json α)) : Except DocumentError (String × String) := do
  let id ← required "id" fields
  let label := findD "label" fields
  return (id.asText, (if label.isVoid then id else label).asText)

/-- The list under a field of a diagram, empty when absent. -/
def entities (name : String) (fields : List (String × Json α)) :
    Except DocumentError (List (Json α)) :=
  let document := findD name fields
  if document.isVoid then .ok []
  else match document with
    | .list items => .ok items
    | .object keys => .ok (keys.map fun field => .text field.1)
    | .text value => .ok (value.toList.map fun c => .text (String.singleton c))
    | document => .error (.notAList document.kind)

end Json

/-- Read a cluster. -/
def Cluster.ofJson (document : Json α) : Except DocumentError (Cluster α) := do
  let fields ← document.entity
  let (id, label) ← Json.idAndLabel fields
  let parent := (Json.findD "parentId" fields).optionalShown
  let x ← (Json.findD "x" fields).scalar?
  let y ← (Json.findD "y" fields).scalar?
  return { id, label, parent, x, y }

/-- Write a cluster; its anchor is written when both coordinates are known. -/
def Cluster.toJson (cluster : Cluster α) : Json α :=
  .object ([("id", .text cluster.id), ("label", .text cluster.label),
    ("parentId", Json.ofText? cluster.parent)] ++
    match cluster.x, cluster.y with
    | some x, some y => [("x", .real x), ("y", .real y)]
    | _, _ => [])

/-- Read a node. -/
def Node.ofJson (document : Json α) : Except DocumentError (Node α) := do
  let fields ← document.entity
  let (id, label) ← Json.idAndLabel fields
  let name ← (Json.findD "name" fields).optionalText
  let x ← (Json.findD "x" fields).scalarOrZero
  let y ← (Json.findD "y" fields).scalarOrZero
  let cluster := (Json.findD "clusterId" fields).optionalShown
  return { id, label, name, x, y, cluster }

/-- Write a node. -/
def Node.toJson (node : Node α) : Json α :=
  .object [("id", .text node.id), ("label", .text node.label), ("name", Json.ofText? node.name),
    ("x", .real node.x), ("y", .real node.y), ("clusterId", Json.ofText? node.cluster)]

/-- Read an edge. The label may also stand under the misspelt field `lable`. -/
def Edge.ofJson (document : Json α) : Except DocumentError Edge := do
  let fields ← document.entity
  let id ← Json.required "id" fields
  let source ← Json.required "from" fields
  let target ← Json.required "to" fields
  let label := Json.findD "label" fields
  let label := (if label.isVoid then Json.findD "lable" fields else label).optionalShown
  let style ← (Json.findD "type" fields).edgeStyle
  return { id := id.asText, source := source.asText, target := target.asText, label, style }

/-- Write an edge. -/
def Edge.toJson (edge : Edge) : Json α :=
  .object [("id", .text edge.id), ("from", .text edge.source), ("to", .text edge.target),
    ("label", Json.ofText? edge.label), ("type", .text edge.style.name)]

/-- Read a diagram. -/
def Graph.ofJson (document : Json α) : Except DocumentError (Graph α) := do
  match document with
  | .object fields =>
      let clusters ← (← Json.entities "clusters" fields).mapM Cluster.ofJson
      let nodes ← (← Json.entities "nodes" fields).mapM Node.ofJson
      let edges ← (← Json.entities "edges" fields).mapM Edge.ofJson
      return { clusters, nodes, edges }
  | document => throw (.notAnObject document.kind)

/-- The fields of a written diagram. -/
def Graph.toFields (graph : Graph α) : List (String × Json α) :=
  [("clusters", .list (graph.clusters.map Cluster.toJson)),
    ("nodes", .list (graph.nodes.map Node.toJson)),
    ("edges", .list (graph.edges.map Edge.toJson))]

/-- Write a diagram. -/
def Graph.toJson (graph : Graph α) : Json α :=
  .object graph.toFields

end ClusterDiagram
