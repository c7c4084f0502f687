import ClusterDiagram.FreshId
import ClusterDiagram.Placement
import ClusterDiagram.Prompt.Statement

/-!
# Reading prompts

Cluster and node lines are taken in first, in order: a cluster nests in the nearest cluster above it
that is indented less, a node lies in the latest cluster. Edge lines follow, in order: an endpoint
is a node known from before or declared in the text, by alias or label in any letter case, and a new
floating node otherwise. Ids are told apart by tokens, which are drawn one by one.
-/

namespace ClusterDiagram
namespace Prompt

/-- What a prompt is read against. -/
structure Context (α : Type) where
  /-- Nodes of the diagram so far. -/
  nodes : List (Node α) := []
  /-- Clusters of the diagram so far. -/
  clusters : List (Cluster α) := []
  /-- Width of the drawing area. -/
  canvasWidth : α
  /-- The tokens, in the order in which they are drawn. -/
  token : Nat → String

/-- A diagram while it is read. -/
structure Draft (α : Type) where
  /-- The diagram so far. -/
  graph : Graph α := {}
  /-- Ids and indentations of the clusters that are open, the innermost first. -/
  enclosing : List (String × Nat) := []
  /-- Ids given so far. -/
  ids : List String := []
  /-- Number of tokens drawn. -/
  drawn : Nat := 0

/-- Why reading stopped, and how many tokens had been drawn. -/
structure Failure where
  /-- What went wrong with a placement. -/
  cause : ArithmeticError
  /-- Number of tokens drawn. -/
  drawn : Nat
  deriving DecidableEq, Repr

/-- What a reference means. -/
inductive Resolution (α : Type) where
  /-- A node known from before. -/
  | existing (node : Node α)
  /-- A node of the text. -/
  | declared (node : Node α)
  /-- No node yet. -/
  | created
  deriving Repr

variable {α : Type} [Scalar α]

/-- Whether a node's alias or label is a key in lower case. -/
def matchesKey (key : String) (node : Node α) : Bool :=
  (Text.nonempty node.name).any (Text.lower · == key) || Text.lower node.label == key

/-- Look a reference up among the nodes known from before, then among those of the text. -/
def resolveReference (reference : String) (known declared : List (Node α)) : Resolution α :=
  let key := Text.foldKey reference
  match known.find? (matchesKey key) with
  | some node => .existing node
  | none =>
      match declared.find? (matchesKey key) with
      | some node => .declared node
      | none => .created

namespace Draft

/-- Give an id that is not given yet. -/
def giveId (draft : Draft α) (base : String) : String × Draft α :=
  let id := FreshId.fresh base draft.ids
  (id, { draft with ids := id :: draft.ids })

/-- Give an id with the next token. -/
def giveTokenId (token : Nat → String) (draft : Draft α) (base : String) : String × Draft α :=
  { draft with drawn := draft.drawn + 1 }.giveId (base ++ "-" ++ token draft.drawn)

/-- Id of the innermost open cluster. -/
def innermost (draft : Draft α) : Option String :=
  draft.enclosing.head?.map (·.1)

/-- Add a cluster: clusters indented as much or more are closed first. -/
def addCluster (draft : Draft α) (indent : Nat) (label : String) : Draft α :=
  let enclosing := draft.enclosing.dropWhile fun entry => indent ≤ entry.2
  let (id, draft) := draft.giveId (Text.slug label)
  let cluster : Cluster α := { id, label, parent := enclosing.head?.map (·.1) }
  { draft with
    graph := { draft.graph with clusters := draft.graph.clusters ++ [cluster] }
    enclosing := (id, indent) :: enclosing }

/-- Add a node, at a free place unless its position is known. -/
def addNode (context : Context α) (draft : Draft α) (label : String) (name : Option String)
    (cluster : Option String) (position : Option (Point α)) :
    Except Failure (Node α × Draft α) :=
  let (id, draft) := draft.giveTokenId context.token (Text.slug (identityKey label name))
  let place : Except ArithmeticError (Point α) := match position with
    | some point => .ok point
    | none =>
        Placement.nodeSlot (context.nodes ++ draft.graph.nodes) context.clusters context.canvasWidth
  match place with
  | .error cause => .error ⟨cause, draft.drawn⟩
  | .ok point =>
      let node : Node α := { id, label, name, x := point.x, y := point.y, cluster }
      .ok (node, { draft with graph := { draft.graph with nodes := draft.graph.nodes ++ [node] } })

/-- Take in a cluster or a node line. -/
def declare (context : Context α) (draft : Draft α) : Statement → Except Failure (Draft α)
  | .cluster indent label => .ok (draft.addCluster indent label)
  | .node label name => (draft.addNode context label name draft.innermost none).map (·.2)
  | .edge .. => .ok draft

/-- The node that a reference means, added to the draft when there is none. A node known from
before is represented by its namesake in the text, and by a copy when it has none. -/
def resolve (context : Context α) (draft : Draft α) (reference : String) :
    Except Failure (Node α × Draft α) :=
  match resolveReference reference context.nodes draft.graph.nodes with
  | .declared node => .ok (node, draft)
  | .existing known =>
      match draft.graph.nodes.find? fun node => node.key == known.key with
      | some node => .ok (node, draft)
      | none =>
          match draft.graph.nodes.find? (matchesKey (Text.foldKey reference)) with
          | some node => .ok (node, draft)
          | none => draft.addNode context known.label known.name none (some ⟨known.x, known.y⟩)
  | .created => draft.addNode context (Text.trim reference) none none none

/-- Take in an edge line. -/
def connect (context : Context α) (draft : Draft α) : Statement → Except Failure (Draft α)
  | .edge source target attributes => do
      let (source, draft) ← draft.resolve context source
      let (target, draft) ← draft.resolve context target
      let (id, draft) := draft.giveTokenId context.token ("e-" ++ source.id ++ "-" ++ target.id)
      let edge : Edge :=
        { id
          source := source.id
          target := target.id
          label := Attributes.findEither? "label" "lable" attributes
          style := EdgeStyle.ofText? (Attributes.findEither? "arrow" "type" attributes) }
      return { draft with graph := { draft.graph with edges := draft.graph.edges ++ [edge] } }
  | _ => .ok draft

end Draft

/-- Read statements: declarations first, then edges. -/
def build (context : Context α) (statements : List Statement) (drawn : Nat) :
    Except Failure (Draft α) := do
  let draft ← statements.foldlM (Draft.declare context) { drawn }
  statements.foldlM (Draft.connect context) draft

/-- Read a prompt, the first token to be drawn being number `drawn`. The result is the diagram and
the number of the next token. -/
def read (context : Context α) (text : String) (drawn : Nat) :
    Except Failure (Graph α × Nat) := do
  let draft ← build context (Statement.ofText text) drawn
  return (draft.graph, draft.drawn)

end Prompt
end ClusterDiagram
