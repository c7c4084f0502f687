import ClusterDiagram.Json.Reader
import ClusterDiagram.Remote.Payload

/-!
# Clients of a parse service

A client turns a wish into a request and a reply into a value. The exchange itself happens elsewhere, so
that every reply, a failed one included, is a value.
-/

namespace ClusterDiagram

/-- What comes back for a request. -/
inductive Reply where
  /-- Nothing came back. -/
  | unreachable (reason : String)
  /-- A response with its status, the reason given with it and its body. -/
  | response (status : Int) (reason body : String)
  deriving DecidableEq, Repr

/-- A request to a service. -/
structure Request where
  /-- The method of the request. -/
  method : String
  /-- Where the request goes. -/
  url : String
  /-- The prompt that is sent along. -/
  prompt : Option String
  deriving DecidableEq, Repr

/-- Why a reply holds no document. -/
inductive CallFault where
  /-- Nothing came back. -/
  | unreachable (reason : String)
  /-- The service reports an error. -/
  | refused (status : Int) (reason url : String)
  /-- The body is no document. -/
  | unreadable (error : Json.ReadError) (body : String)
  deriving DecidableEq, Repr

/-- The text of a call fault. -/
def CallFault.message : CallFault → String
  | .unreachable reason => reason
  | .refused status reason url =>
      toString status ++ (if status < 500 then " Client" else " Server") ++ " Error: " ++ reason ++
        " for url: " ++ url
  | .unreadable error body => error.message body.toList

/-- Why a service gives no value. -/
inductive RemoteError where
  /-- The call failed. -/
  | call (fault : CallFault)
  /-- The body is a document that holds a number too long to be read. -/
  | body (fault : CallFault)
  /-- The document is no diagram. -/
  | payload (error : PayloadError)
  deriving DecidableEq, Repr

/-- The text of a remote error. -/
def RemoteError.message : RemoteError → String
  | .call fault => "Parse service call failed: " ++ fault.message
  | .body fault => "Parse service returned a non-JSON body: " ++ fault.message
  | .payload error => error.message

/-- A client of a parse service. -/
structure Client where
  /-- Address of the service, without a slash at its end. -/
  address : String
  deriving DecidableEq, Repr

/-- A text without the slashes at its end. -/
def dropSlashes (text : String) : String :=
  String.ofList (text.toList.reverse.dropWhile (· == '/')).reverse

namespace Client

/-- The client for an address. -/
def ofAddress (address : String) : Client :=
  ⟨dropSlashes address⟩

/-- The request to read a prompt. -/
def parseRequest (client : Client) (prompt : String) : Request :=
  ⟨"POST", client.address ++ "/api/parse", some prompt⟩

/-- The request for the prompt that the service read last. -/
def lastPromptRequest (client : Client) : Request :=
  ⟨"GET", client.address ++ "/api/last-prompt", none⟩

/-- The document of a reply. -/
def document (url : String) : Reply → Except CallFault (Json Float)
  | .unreachable reason => .error (.unreachable reason)
  | .response status reason body =>
      if 400 ≤ status ∧ status < 600 then .error (.refused status reason url)
      else
        match Json.read body with
        | .ok document => .ok document
        | .error error => .error (.unreadable error body)

variable {α : Type} [Scalar α]

/-- The diagram of a reply to a parse request. -/
def diagram (client : Client) (prompt : String) (reply : Reply) : Except RemoteError (Graph α) :=
  match document (client.parseRequest prompt).url reply with
  | .ok document =>
      match Graph.ofPayload (document.map Scalar.ofFloat) with
      | .ok graph => .ok graph
      | .error error => .error (.payload error)
  | .error (.unreadable (.tooManyDigits count) body) =>
      .error (.body (.unreadable (.tooManyDigits count) body))
  | .error fault => .error (.call fault)

/-- The prompt of a reply, absent unless the reply is an object. -/
def lastPrompt (client : Client) (reply : Reply) : Except RemoteError (Json Float) :=
  match document client.lastPromptRequest.url reply with
  | .ok (.object fields) => .ok (Json.findD "prompt" fields)
  | .ok _ => .ok .null
  | .error fault => .error (.call fault)

end Client
end ClusterDiagram
