import ClusterDiagram.Layout
import ClusterDiagram.Merge.Basic
import ClusterDiagram.Outline
import ClusterDiagram.Prompt.Reader
import ClusterDiagram.Settings.Basic
import ClusterDiagram.Tables.Import

/-!
# Sessions

A session holds the live diagram and the prompt that describes it. A text update reads the prompt, merges
it with the live diagram and lays the result out. The answer of a parse service to an update may take the
place of the result, unless a newer update has begun; any failure of the service leaves the result
as it is.
-/

namespace ClusterDiagram

/-- A live diagram and its prompt. -/
structure Session (α : Type) where
  /-- The diagram. -/
  graph : Graph α := {}
  /-- The prompt. -/
  text : String := ""
  /-- Number of text updates begun. -/
  generation : Nat := 0
  /-- Number of tokens drawn. -/
  drawn : Nat := 0

/-- Why a session refuses an operation. -/
inductive SessionError where
  /-- A placement failed. -/
  | arithmetic (error : ArithmeticError)
  /-- There is no node with the id. -/
  | unknownNode (id : String)
  /-- There is no cluster with the id. -/
  | unknownCluster (id : String)
  /-- There is no edge with the id. -/
  | unknownEdge (id : String)
  /-- The label of a new cluster is blank. -/
  | emptyLabel
  /-- A table cannot be imported. -/
  | table (error : TableError)
  deriving DecidableEq, Repr

/-- The text of a session error. -/
def SessionError.message : SessionError → String
  | .arithmetic error => error.message
  | .unknownNode id => "Unknown node: " ++ id
  | .unknownCluster id => "Unknown cluster: " ++ id
  | .unknownEdge id => "Unknown edge: " ++ id
  | .emptyLabel => "Cluster label must not be empty"
  | .table error => error.message

/-- What became of the parse service's answer to an update. -/
inductive RemoteState where
  /-- The service was not asked. -/
  | disabled
  /-- The answer took the place of the result. -/
  | applied
  /-- There was no usable answer. -/
  | unavailable
  /-- A newer update had begun. -/
  | stale
  deriving DecidableEq, Repr

/-- The name of a state. -/
def RemoteState.name : RemoteState → String
  | .disabled => "disabled"
  | .applied => "applied"
  | .unavailable => "unavailable"
  | .stale => "stale"

/-- The result of an update. -/
structure Status where
  /-- Number of the update. -/
  generation : Int
  /-- What became of the service's answer. -/
  remote : RemoteState
  /-- Why there was no usable answer. -/
  error : Option RemoteError := none
  deriving DecidableEq, Repr

/-- What a session works with. -/
structure Session.Context (α : Type) where
  /-- The settings. -/
  settings : Settings α
  /-- The tokens, in the order in which they are drawn. -/
  token : Nat → String

/-- A session after an update. -/
structure Session.Update (α : Type) where
  /-- The session. -/
  session : Session α
  /-- The requests that were made to the parse service. -/
  requests : List Request := []
  /-- The status, or why the update failed. -/
  result : Except SessionError Status

namespace Session

variable {α : Type} [Scalar α]

/-- The result of a computation with scalars. -/
def ofArithmetic {ρ : Type} : Except ArithmeticError ρ → Except SessionError ρ
  | .ok value => .ok value
  | .error error => .error (.arithmetic error)

/-- A diagram with its clusters laid out. -/
def arrange (context : Context α) (graph : Graph α) (anchor : Option (Layout.Anchor α)) :
    Except SessionError (Graph α) :=
  ofArithmetic do
    let (clusters, nodes) ←
      Layout.layout graph.clusters graph.nodes anchor context.settings.canvas
    return { graph with clusters, nodes }

/-- The diagram that results from a new one: merged with the live one and laid out. -/
def integrate (context : Context α) (session : Session α) (parsed : Graph α) :
    Except SessionError (Graph α) := do
  let merged ← ofArithmetic (Merge.merge parsed session.graph.nodes session.graph.clusters
    context.settings.canvas.width)
  arrange context merged none

/-- Update the text. The update counts, and the text stays, even when it fails. -/
def localUpdate (context : Context α) (session : Session α) (text : String) :
    Session α × Except SessionError Nat :=
  let generation := session.generation + 1
  let begun := { session with generation, text }
  let reading : Prompt.Context α :=
    { nodes := session.graph.nodes
      clusters := session.graph.clusters
      canvasWidth := context.settings.canvas.width
      token := context.token }
  match Prompt.read reading text session.drawn with
  | .error failure => ({ begun with drawn := failure.drawn }, .error (.arithmetic failure.cause))
  | .ok (parsed, drawn) =>
      let begun := { begun with drawn }
      match integrate context begun parsed with
      | .error error => (begun, .error error)
      | .ok graph => ({ begun with graph }, .ok generation)

/-- An edge of the service's answer: the style of the first local edge with the same ends stays, and
its label where the answer gives none. -/
def keepLocalStyle (edges : List Edge) (edge : Edge) : Edge :=
  match edges.find? fun other => other.source == edge.source && other.target == edge.target with
  | none => edge
  | some found =>
      { edge with
        label := (edge.label.filter fun label => !label.isEmpty).or found.label
        style := found.style }

/-- Apply the service's answer to an update. -/
def applyDiagram (context : Context α) (session : Session α) (generation : Int)
    (answer : Graph α) : Session α × Except SessionError Status :=
  if generation = session.generation then
    match integrate context session answer with
    | .error error => (session, .error error)
    | .ok graph =>
        let edges := graph.edges.map (keepLocalStyle session.graph.edges)
        ({ session with graph := { graph with edges } }, .ok ⟨generation, .applied, none⟩)
  else (session, .ok ⟨generation, .stale, none⟩)

/-- Apply what the service gave for an update, an error included. -/
def applyAnswer (context : Context α) (session : Session α) (generation : Int)
    (answer : Except RemoteError (Graph α)) : Session α × Except SessionError Status :=
  match answer with
  | .ok graph => applyDiagram context session generation graph
  | .error error => (session, .ok ⟨generation, .unavailable, some error⟩)

/-- Apply a payload that was fetched for an update. -/
def applyPayload (context : Context α) (session : Session α) (generation : Int)
    (payload : Json α) : Session α × Except SessionError Status :=
  applyAnswer context session generation ((Graph.ofPayload payload).mapError RemoteError.payload)

/-- Update the text, then ask the parse service where that is wanted; `choice` overrides the
settings, and `reply` is what comes back. -/
def update (context : Context α) (session : Session α) (text : String) (choice : Option Bool)
    (reply : Reply) : Update α :=
  match localUpdate context session text with
  | (session, .error error) => { session, result := .error error }
  | (session, .ok generation) =>
      if choice.getD context.settings.usesRemote then
        let client := context.settings.client
        let (session, result) :=
          applyAnswer context session generation (client.diagram text reply)
        { session, requests := [client.parseRequest text], result }
      else { session, result := .ok ⟨generation, .disabled, none⟩ }

/-- Import tables and update the text with their prompt. -/
def importTables (context : Context α) (session : Session α) (files : Files) (path : String)
    (edgesPath : Option String) (reply : Reply) : Update α :=
  match Table.load files path edgesPath with
  | .error error => { session, result := .error (.table error) }
  | .ok text => update context session text none reply

end Session
end ClusterDiagram
