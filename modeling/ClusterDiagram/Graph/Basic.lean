import ClusterDiagram.Scalar.Basic
import ClusterDiagram.Text.Lower

/-!
# Diagram graphs

A diagram holds nested clusters, nodes that lie in at most one cluster, and edges between nodes.
Entities refer to each other by id. All collections keep the order of declaration.
-/

namespace ClusterDiagram

/-- How an edge is drawn. -/
inductive EdgeStyle where
  /-- An unbroken line with one arrowhead. -/
  | solid
  /-- A dashed line with one arrowhead. -/
  | dashed
  /-- An unbroken line with an arrowhead at both ends. -/
  | double
  /-- A dashed line with an arrowhead at both ends. -/
  | doubleDotted
  deriving DecidableEq, Repr, Inhabited

namespace EdgeStyle

/-- The name of a style. -/
def name : EdgeStyle → String
  | .solid => "solid"
  | .dashed => "dashed"
  | .double => "double"
  | .doubleDotted => "double-dotted"

/-- Every name that is read as a style: those above and the words of the arrow picker. -/
def named : List (String × EdgeStyle) :=
  [("solid", .solid), ("dashed", .dashed), ("double", .double), ("double-dotted", .doubleDotted),
    ("single", .solid), ("dotted", .dashed)]

/-- Read a style from free text: outer white space and quotes and letter case do not count, and
every unknown word means `solid`. -/
def ofText (text : String) : EdgeStyle :=
  let word := Text.trimWhile Text.isQuote (Text.trimChars text.toList)
  (named.lookup (String.ofList (Text.lowerChars word))).getD .solid

/-- Read a style that may be absent. -/
def ofText? (text : Option String) : EdgeStyle :=
  ofText (text.getD "")

end EdgeStyle

/-- The key under which entities of two diagrams are the same: the name, or else the label, trimmed
and in lower case. -/
def identityKey (label : String) (name : Option String) : String :=
  Text.foldKey ((Text.nonempty name).getD label)

/-- A labelled group of nodes and other clusters. -/
structure Cluster (α : Type) where
  /-- Identifier within the diagram. -/
  id : String
  /-- Text shown on the cluster. -/
  label : String
  /-- Id of the enclosing cluster. -/
  parent : Option String := none
  /-- Left edge of the cell that the layout gave it. -/
  x : Option α := none
  /-- Top edge of the cell that the layout gave it. -/
  y : Option α := none
  deriving DecidableEq, Repr

/-- A labelled icon. -/
structure Node (α : Type) where
  /-- Identifier within the diagram. -/
  id : String
  /-- Text shown on the node. -/
  label : String
  /-- Alias that edges may refer to instead of the label. -/
  name : Option String := none
  /-- Horizontal position of the centre. -/
  x : α
  /-- Vertical position of the centre. -/
  y : α
  /-- Id of the cluster the node lies in. -/
  cluster : Option String := none
  deriving DecidableEq, Repr

/-- A directed connection of two nodes. -/
structure Edge where
  /-- Identifier within the diagram. -/
  id : String
  /-- Id of the node the edge leaves. -/
  source : String
  /-- Id of the node the edge enters. -/
  target : String
  /-- Text shown beside the edge. -/
  label : Option String := none
  /-- How the edge is drawn. -/
  style : EdgeStyle := .solid
  deriving DecidableEq, Repr, Inhabited

/-- A whole diagram. -/
structure Graph (α : Type) where
  /-- Clusters in order of declaration. -/
  clusters : List (Cluster α) := []
  /-- Nodes in order of declaration. -/
  nodes : List (Node α) := []
  /-- Edges in order of declaration. -/
  edges : List Edge := []
  deriving DecidableEq, Repr, Inhabited

variable {α : Type}

namespace Cluster

/-- The key under which a cluster is matched. -/
def key (cluster : Cluster α) : String :=
  Text.foldKey cluster.label

/-- The last cluster with an id. -/
def lastWith? (id : String) (clusters : List (Cluster α)) : Option (Cluster α) :=
  clusters.reverse.find? fun cluster => cluster.id == id

/-- Whether an id is that of a cluster. -/
def isListed (clusters : List (Cluster α)) (id : String) : Bool :=
  clusters.any fun cluster => cluster.id == id

/-- Whether a reference names a cluster of the list. -/
def refersTo (clusters : List (Cluster α)) (reference : Option String) : Bool :=
  match reference with
  | none => false
  | some id => isListed clusters id

end Cluster

namespace Node

/-- The key under which a node is matched. -/
def key (node : Node α) : String :=
  identityKey node.label node.name

/-- The text by which an edge line refers to a node. -/
def reference (node : Node α) : String :=
  (Text.nonempty node.name).getD node.label

/-- Whether a node has been given a position. -/
def isPlaced [Scalar α] (node : Node α) : Bool :=
  !Scalar.isZero node.x || !Scalar.isZero node.y

/-- The last node with an id. -/
def lastWith? (id : String) (nodes : List (Node α)) : Option (Node α) :=
  nodes.reverse.find? fun node => node.id == id

end Node

namespace Graph

/-- The nodes that lie in a cluster. -/
def members (graph : Graph α) (id : String) : List (Node α) :=
  graph.nodes.filter fun node => node.cluster == some id

/-- Whether a diagram holds nothing. -/
def isEmpty (graph : Graph α) : Bool :=
  graph.clusters.isEmpty && graph.nodes.isEmpty && graph.edges.isEmpty

end Graph

end ClusterDiagram
