import ClusterDiagram.Prompt.Reader

/-!
# Writing prompts

A diagram is written with its floating nodes first, then its clusters depth first, indented by two
blanks a level and each followed by its own nodes, then one line per edge. Every cluster is written
once, even when parent links form a cycle.
-/

namespace ClusterDiagram
namespace Prompt

/-- The indentation of a level. -/
def indentation (depth : Nat) : String :=
  String.ofList (List.replicate (2 * depth) ' ')

/-- A node line. -/
def nodeText (label : String) (name : Option String) (depth : Nat) : String :=
  indentation depth ++ "Node: " ++ label ++
    match name with
    | some name => if name.isEmpty then "" else " [name=" ++ name ++ "]"
    | none => ""

/-- A cluster line. -/
def clusterText (label : String) (depth : Nat) : String :=
  indentation depth ++ "Cluster: " ++ label

section Forest

variable {β : Type} (id : β → String) (children : String → List β)

/-- Depth-first order of a forest, one vertex for each id, with its depth. The stack holds the
vertices to be visited, the next one first; `seen` the ids already visited. The fuel bounds the
number of vertices taken off the stack. -/
def walk : Nat → List (β × Nat) → List String → List (β × Nat)
  | 0, _, _ => []
  | _, [], _ => []
  | fuel + 1, (vertex, depth) :: stack, seen =>
      if seen.contains (id vertex) then walk fuel stack seen
      else
        (vertex, depth) ::
          walk fuel ((children (id vertex)).map (fun child => (child, depth + 1)) ++ stack)
            (id vertex :: seen)

/-- Depth-first order from the roots, then from whatever no root leads to, in the given order. -/
def forestOrder (vertices roots : List β) : List (β × Nat) :=
  let bound := roots.length + vertices.length +
    (vertices.flatMap fun vertex => children (id vertex)).length
  walk id children (bound + 1) ((roots ++ vertices).map fun vertex => (vertex, 0)) []

end Forest

variable {α : Type}

/-- Whether a cluster hangs below a cluster of the list other than itself. -/
def hasParent (clusters : List (Cluster α)) (cluster : Cluster α) : Bool :=
  Cluster.refersTo clusters cluster.parent && cluster.parent != some cluster.id

/-- The clusters that hang directly below a cluster. -/
def childrenOf (clusters : List (Cluster α)) (id : String) : List (Cluster α) :=
  clusters.filter fun child => hasParent clusters child && child.parent == some id

/-- The line of an edge, when both of its ends are nodes of the diagram. -/
def edgeLine? (nodes : List (Node α)) (edge : Edge) : Option String :=
  match Node.lastWith? edge.source nodes, Node.lastWith? edge.target nodes with
  | some source, some target =>
      some (source.reference ++ " -> " ++ target.reference ++ " [arrow=" ++ edge.style.name ++
        (match edge.label with
          | some label => if label.isEmpty then "" else ", label=" ++ Attributes.quote label
          | none => "") ++ "]")
  | _, _ => none

/-- The lines of a diagram. -/
def lines (graph : Graph α) : List String :=
  let clusters := graph.clusters
  let floating := graph.nodes.filter fun node => !Cluster.refersTo clusters node.cluster
  let roots := clusters.filter fun cluster => !hasParent clusters cluster
  let order := forestOrder (·.id) (childrenOf clusters) clusters roots
  floating.map (fun node => nodeText node.label node.name 0) ++
    order.flatMap (fun (cluster, depth) =>
      clusterText cluster.label depth ::
        (graph.members cluster.id).map fun node => nodeText node.label node.name (depth + 1)) ++
    graph.edges.filterMap (edgeLine? graph.nodes)

/-- Write a diagram. -/
def write (graph : Graph α) : String :=
  Text.trim ("\n".intercalate (lines graph))

end Prompt
end ClusterDiagram
