import ClusterDiagram.Session.Snapshot

/-!
# The parse service

The service answers four kinds of calls: whether it is up, the diagram of a prompt, the prompt it read
last and the routes of a diagram. It reads a prompt afresh, without any earlier diagram, lays the clusters
out and keeps nothing but the prompt.
-/

namespace ClusterDiagram

/-- The parse service between calls. -/
structure Service where
  /-- The prompt read last. -/
  lastPrompt : Option String := none
  /-- Number of tokens drawn. -/
  drawn : Nat := 0
  deriving DecidableEq, Repr

namespace Service

/-- A call of the service. -/
structure Call where
  /-- The path called. -/
  path : String
  /-- The method of the call, in capitals. -/
  method : String
  /-- The declared type of the body. -/
  contentType : Option String
  /-- The body. -/
  body : String
  deriving DecidableEq, Repr

/-- The answer to a call. -/
structure Answer (α : Type) where
  /-- The status. -/
  status : Nat
  /-- The document answered, where the body is one. -/
  document : Option (Json α)

/-- What can be called. -/
inductive Endpoint where
  /-- Whether the service is up. -/
  | health
  /-- The diagram of a prompt. -/
  | parse
  /-- The prompt read last. -/
  | lastPrompt
  /-- The routes of a diagram. -/
  | route
  deriving DecidableEq, Repr

namespace Endpoint

/-- The endpoint of a path, whose query does not count. -/
def ofPath? (path : String) : Option Endpoint :=
  let bare := String.ofList (path.toList.takeWhile (· != '?'))
  if bare = "/health" then some .health
  else if bare = "/api/parse" then some .parse
  else if bare = "/api/last-prompt" then some .lastPrompt
  else if bare = "/api/route" then some .route
  else none

/-- Whether an endpoint takes a body. -/
def takesBody : Endpoint → Bool
  | .parse | .route => true
  | .health | .lastPrompt => false

end Endpoint

variable {α : Type} [Scalar α]

/-- The answer that reports an error. -/
def failure (status : Nat) (message : String) : Answer α :=
  ⟨status, some (.object [("status", .text "error"), ("error", .text message)])⟩

/-- Whether a declared type is that of documents. -/
def isDocumentType (contentType : String) : Bool :=
  let name := Text.lowerChars (Text.trimChars (contentType.toList.takeWhile (· != ';')))
  name == "application/json".toList ||
    ("application/".toList.isPrefixOf name && "+json".toList.isSuffixOf name)

/-- The document that a call carries, where it carries one. -/
def Call.document? (call : Call) : Option (Json α) :=
  if (call.contentType.map isDocumentType).getD false then
    let body := match call.body.toList with
      | '\ufeff' :: rest => rest
      | body => body
    match Json.readChars body with
    | .ok document => some (document.map Scalar.ofFloat)
    | .error _ => none
  else none

/-- A field of the object that a call carries. -/
def Call.field? (call : Call) (name : String) : Option (Json α) :=
  match (call.document? : Option (Json α)) with
  | some (.object fields) => Json.find? name fields
  | _ => none

/-- The diagram of a prompt, read afresh and laid out, and the number of tokens drawn by then. -/
def readPrompt (context : Session.Context α) (prompt : String) (drawn : Nat) :
    Nat × Except ArithmeticError (Graph α) :=
  let canvas := context.settings.canvas
  match Prompt.read { canvasWidth := canvas.width, token := context.token } prompt drawn with
  | .error failure => (failure.drawn, .error failure.cause)
  | .ok (parsed, drawn) =>
      (drawn, do
        let (clusters, nodes) ← Layout.layout parsed.clusters parsed.nodes none canvas
        return { clusters, nodes, edges := parsed.edges })

/-- The message that goes with a diagram. -/
def summary (graph : Graph α) : String :=
  "Parsed " ++ toString graph.nodes.length ++ " nodes, " ++ toString graph.edges.length ++
    " edges, " ++ toString graph.clusters.length ++ " clusters"

/-- Answer with the diagram of a prompt. -/
def answerParse (context : Session.Context α) (service : Service) (call : Call) :
    Service × Answer α :=
  match (call.field? "prompt" : Option (Json α)) with
  | some (.text prompt) =>
      let (drawn, result) := readPrompt context prompt service.drawn
      let service : Service := { lastPrompt := some prompt, drawn }
      match result with
      | .ok graph =>
          (service, ⟨200, some (.object (graph.toFields ++ [("message", .text (summary graph))]))⟩)
      | .error error => (service, failure 500 error.message)
  | _ => (service, failure 400 "Request body must be JSON with a string 'prompt'")

/-- What a caller is told about a document that is no diagram, unless the service itself fails. -/
def documentComplaint? : DocumentError → Option String
  | .missingField name => some ("Malformed graph: " ++ Text.showQuoted name)
  | .notAnObject _ | .notText _ | .arithmetic _ => none
  | error => some ("Malformed graph: " ++ error.message)

/-- Answer with the routes of a diagram. -/
def answerRoute (call : Call) : Answer α :=
  match (call.field? "graph" : Option (Json α)) with
  | some (.object fields) =>
      match Graph.ofJson (.object fields) with
      | .error error =>
          match documentComplaint? error with
          | some complaint => failure 400 complaint
          | none => ⟨500, none⟩
      | .ok graph =>
          match Routing.routeAll graph with
          | .ok routes => ⟨200, some (.object [("routes", Routing.routesJson routes)])⟩
          | .error _ => ⟨500, none⟩
  | _ => failure 400 "Request body must be JSON with a 'graph' object"

/-- Answer a call. -/
def respond (context : Session.Context α) (service : Service) (call : Call) :
    Service × Answer α :=
  match Endpoint.ofPath? call.path with
  | none => (service, ⟨404, none⟩)
  | some endpoint =>
      if call.method = "OPTIONS" then (service, ⟨200, none⟩)
      else if call.method = "HEAD" ∧ endpoint.takesBody = false then (service, ⟨200, none⟩)
      else if call.method ≠ (if endpoint.takesBody then "POST" else "GET") then
        (service, ⟨405, none⟩)
      else match endpoint with
        | .health => (service, ⟨200, some (.object [("status", .text "ok")])⟩)
        | .parse => answerParse context service call
        | .lastPrompt =>
            (service, ⟨200, some (.object [("prompt", Json.ofText? service.lastPrompt)])⟩)
        | .route => (service, answerRoute call)

end Service
end ClusterDiagram
