import ClusterDiagram.Session.Snapshot

/-!
# Operations

Everything that can be asked of a session, as one type, so that a whole run of a session is a list of
operations. A refused operation leaves the session where it got to, and the run goes on.
-/

namespace ClusterDiagram
namespace Session

/-- What can be asked of a session. -/
inductive Operation (α : Type) where
  /-- Update the text and perhaps ask the parse service. -/
  | update (text : String) (choice : Option Bool) (reply : Reply)
  /-- Update the text without asking. -/
  | localUpdate (text : String)
  /-- Apply a payload that was fetched for an update, the present one unless it is named. -/
  | applyPayload (payload : Json α) (generation : Option Int)
  /-- Take over a saved diagram. -/
  | load (graph : Graph α) (text : Option String)
  /-- Import tables. -/
  | importTables (files : Files) (path : String) (edgesPath : Option String) (reply : Reply)
  /-- Lay the clusters out again. -/
  | relayout (anchor : Option (Layout.Anchor α))
  /-- Lay the clusters out again around a dropped one. -/
  | dropCluster (id : String) (point : Point α)
  /-- Move a cluster. -/
  | moveCluster (id : String) (corner : Point α)
  /-- Move a node. -/
  | moveNode (id : String) (point : Point α)
  /-- Add a node. -/
  | addNode (label : String) (point : Point α) (name : Option String)
  /-- Settle the cluster of a moved node. -/
  | finalizeNodeMove (id : String)
  /-- Remove a node. -/
  | deleteNode (id : String)
  /-- Set the alias of a node. -/
  | renameNode (id : String) (name : Option String)
  /-- Connect two nodes. -/
  | addEdge (source target arrow : String) (label : Option String)
  /-- Remove an edge. -/
  | deleteEdge (id : String)
  /-- Add a cluster. -/
  | addCluster (label : String)

/-- What an operation gives. -/
inductive Outcome (α : Type) where
  /-- Nothing but the change. -/
  | done
  /-- The status of an update. -/
  | status (status : Status)
  /-- The number of an update. -/
  | generation (number : Nat)
  /-- A new node. -/
  | node (node : Node α)
  /-- A new edge. -/
  | edge (edge : Edge)
  /-- A new cluster. -/
  | cluster (cluster : Cluster α)
  /-- The cluster that a node has joined. -/
  | joined (cluster : Option String)

/-- A session after an operation, and what it gave. -/
abbrev Performed (α : Type) := Session α × Except SessionError (Outcome α)

variable {α : Type} [Scalar α]

/-- An edit that gives nothing, undone when it is refused. -/
def ofEdit (session : Session α) : Except SessionError (Session α) → Performed α
  | .ok session => (session, .ok .done)
  | .error error => (session, .error error)

/-- An edit that gives something, undone when it is refused. -/
def ofEditWith {ρ : Type} (session : Session α) (outcome : ρ → Outcome α) :
    Except SessionError (Session α × ρ) → Performed α
  | .ok (session, value) => (session, .ok (outcome value))
  | .error error => (session, .error error)

/-- Perform an operation. -/
def perform (context : Context α) (session : Session α) : Operation α → Performed α
  | .update text choice reply =>
      let updated := update context session text choice reply
      (updated.session, updated.result.map .status)
  | .localUpdate text =>
      let (session, result) := session.localUpdate context text
      (session, result.map .generation)
  | .applyPayload payload generation =>
      let (session, result) :=
        session.applyPayload context (generation.getD session.generation) payload
      (session, result.map .status)
  | .load graph text => (session.load graph text, .ok .done)
  | .importTables files path edgesPath reply =>
      let updated := importTables context session files path edgesPath reply
      (updated.session, updated.result.map .status)
  | .relayout anchor => ofEdit session (session.relayout context anchor)
  | .dropCluster id point => ofEdit session (session.dropCluster context id point)
  | .moveCluster id corner => ofEdit session (session.moveCluster context id corner)
  | .moveNode id point => ofEdit session (session.moveNode id point)
  | .addNode label point name =>
      ofEditWith session .node (session.addNode context label point name)
  | .finalizeNodeMove id => ofEditWith session .joined (session.finalizeNodeMove context id)
  | .deleteNode id => ofEdit session (session.deleteNode id)
  | .renameNode id name => ofEdit session (session.renameNode id name)
  | .addEdge source target arrow label =>
      ofEditWith session .edge (session.addEdge context source target arrow label)
  | .deleteEdge id => ofEdit session (session.deleteEdge id)
  | .addCluster label => ofEditWith session .cluster (session.addCluster context label)

/-- Perform some operations in order. -/
def run (context : Context α) (session : Session α) (operations : List (Operation α)) :
    Session α :=
  operations.foldl (fun session operation => (perform context session operation).1) session

end Session
end ClusterDiagram
