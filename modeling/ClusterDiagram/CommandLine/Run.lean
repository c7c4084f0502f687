import ClusterDiagram.CommandLine.Command
import ClusterDiagram.Json.Writer
import ClusterDiagram.Session.Snapshot

/-!
# Running commands

A command is run on what there is under each path, with the settings and the reply of the parse service
given. Its report holds what is printed, what is written and the requests made. Errors that a user can
cause with a file are reported; others end the run.
-/

namespace ClusterDiagram
namespace Command

/-- What commands are run on. -/
structure World (α : Type) where
  /-- What there is under each path. -/
  files : Files
  /-- What sessions work with. -/
  context : Session.Context α
  /-- The reply of the parse service. -/
  reply : Reply

/-- Why a command fails. -/
inductive Failure where
  /-- There is no prompt under a path. -/
  | noPrompt (path : String)
  /-- There is no saved diagram under a path. -/
  | noState (path : String)
  /-- A path to be written to has no directory. -/
  | noFile (path : String)
  /-- There is a directory under a path. -/
  | directory (path : String)
  /-- A saved diagram is no document. -/
  | unreadable (error : Json.ReadError) (text : List Char)
  /-- A document is no diagram. -/
  | document (error : DocumentError)
  /-- A session refuses an operation. -/
  | session (error : SessionError)
  /-- A table cannot be read or written. -/
  | table (error : TableError)

namespace Failure

/-- The text of a failure. -/
def message : Failure → String
  | .noPrompt path => "Prompt file not found: " ++ path
  | .noState path => "State file not found: " ++ path
  | .noFile path => (TableError.noFile path).message
  | .directory path => (TableError.directory path).message
  | .unreadable error text => error.message text
  | .document error => error.message
  | .session error => error.message
  | .table error => error.message

/-- Whether a failure is reported to the user. -/
def isReported : Failure → Bool
  | .noPrompt _ | .noState _ | .noFile _ | .unreadable .. => true
  | .directory _ | .document _ => false
  | .session (.arithmetic .notANumber) => true
  | .session (.table (.unwritableText _)) | .table (.unwritableText _) => false
  | .session (.table (.directory _)) | .table (.directory _) => false
  | .session (.table _) | .table _ => true
  | .session _ => false

end Failure

/-- What a command did. -/
structure Report where
  /-- The status with which the program ends. -/
  exit : Nat := 0
  /-- What is printed. -/
  output : String := ""
  /-- What is reported as an error. -/
  error : Option String := none
  /-- The requests made to the parse service. -/
  requests : List Request := []
  /-- What is written, and where. -/
  written : Option (String × FileContent) := none

/-- What a command prints and writes. -/
structure Result where
  /-- What is printed. -/
  output : String := ""
  /-- What is written, and where. -/
  written : Option (String × FileContent) := none

/-! ## Paths -/

/-- The components of a path that count. -/
def components (path : String) : List String :=
  (path.splitOn "/").filter fun name => name != "" && name != "."

/-- A path in its plain form. -/
def plain (path : String) : String :=
  let names := "/".intercalate (components path)
  if path.toList.head? = some '/' then "/" ++ names
  else if names.isEmpty then "." else names

/-- The directory that holds a plain path. -/
def parent (path : String) : String :=
  let above := "/".intercalate (components path).dropLast
  if path.toList.head? = some '/' then "/" ++ above
  else if above.isEmpty then "." else above

/-! ## Reading and writing -/

variable {α : Type} [Scalar α]

/-- The text under a path; `missing` is the failure when there is none. -/
def readText (world : World α) (path : String) (missing : String → Failure) :
    Except Failure (List Char) :=
  let path := plain path
  match world.files path with
  | none => .error (missing path)
  | some .directory => .error (.directory path)
  | some (.workbook _) => .ok []
  | some (.text text) => .ok (Text.joinLineEnds text.toList)

/-- A saved diagram, and its prompt where one is saved with it. -/
def readState (world : World α) (path : String) :
    Except Failure (Graph α × Option String) := do
  let text ← readText world path .noState
  match Json.readChars text with
  | .error error => throw (.unreadable error text)
  | .ok document =>
      match Graph.ofJson (document.map Scalar.ofFloat : Json α) with
      | .error error => throw (.document error)
      | .ok graph =>
          let prompt := match document with
            | .object fields => Json.findD "prompt" fields
            | _ => .null
          return (graph, match prompt with
            | .null => none
            | .text text => some text
            | _ => some "")

/-- Fail unless a path can be written to. -/
def requireWritable (world : World α) (path : String) : Except Failure Unit :=
  match world.files path, world.files (parent path) with
  | some .directory, _ => .error (.directory path)
  | _, some .directory => .ok ()
  | _, _ => .error (.noFile path)

/-- Print a document, or write it to a path. -/
def emit (world : World α) (document : Json α) (out : Option String) : Except Failure Result := do
  let text := document.write 0
  match out with
  | none => return { output := text ++ "\n" }
  | some path =>
      let path := plain path
      requireWritable world path
      return { written := some (path, .text text) }

/-! ## Commands -/

/-- The computation of a session. -/
def ofSession {ρ : Type} : Except SessionError ρ → Except Failure ρ
  | .ok value => .ok value
  | .error error => .error (.session error)

/-- The computation of a table. -/
def ofTable {ρ : Type} : Except TableError ρ → Except Failure ρ
  | .ok value => .ok value
  | .error error => .error (.table error)

/-- The report of a result, or of a failure that is reported. -/
def conclude (requests : List Request) : Except Failure Result → Except Failure Report
  | .ok result => .ok { output := result.output, written := result.written, requests }
  | .error failure =>
      if failure.isReported then
        .ok { exit := 1, error := some ("Error: " ++ failure.message), requests }
      else .error failure

/-- The session and the prompt that a parse command starts from. -/
def prepare (world : World α) (prompt : String) (state : Option String) :
    Except Failure (Session α × String) := do
  let session : Session α ← match state with
    | none => pure {}
    | some path => do
        let (graph, text) ← readState world path
        pure (Session.load {} graph text)
  let text ← readText world prompt .noPrompt
  return (session, String.ofList text)

/-- Run a parse command. -/
def runParse (world : World α) (prompt : String) (state out : Option String) (remote : Bool) :
    Except Failure Report :=
  match prepare world prompt state with
  | .error failure => conclude [] (.error failure)
  | .ok (session, text) =>
      let updated := session.update world.context text (if remote then some true else none)
        world.reply
      conclude updated.requests do
        let status ← ofSession updated.result
        let snapshot ← ofSession updated.session.snapshot
        emit world (.object (snapshot.toFields ++ [("remote", .text status.remote.name)])) out

/-- Run a route command. -/
def runRoute (world : World α) (state : String) : Except Failure Result := do
  let (graph, _) ← readState world state
  let routes ← ofSession (Session.ofArithmetic (Routing.routeAll graph))
  emit world (.object [("routes", Routing.routesJson routes)]) none

/-- Run an export command. -/
def runExport (world : World α) (prompt out : String) : Except Failure Result := do
  let (session, text) ← prepare world prompt none
  let updated := session.update world.context text (some false) world.reply
  let _ ← ofSession updated.result
  let sheets ← ofTable (Workbook.ofGraph updated.session.graph)
  return { written := some (plain out, .workbook sheets) }

/-- Run a command. -/
def run (world : World α) : Command → Except Failure Report
  | .parse prompt state out remote => runParse world prompt state out remote
  | .regenerate state => conclude [] do
      let (graph, _) ← readState world state
      return { output := Prompt.write graph ++ "\n" }
  | .route state => conclude [] (runRoute world state)
  | .importTables table edges => conclude [] do
      let text ← ofTable (Table.load world.files (plain table) (edges.map plain))
      return { output := text ++ "\n" }
  | .exportWorkbook prompt out => conclude [] (runExport world prompt out)
  | .serve .. => .ok {}

/-- The paths that a command looks at. -/
def paths : Command → List String
  | .parse prompt state out _ =>
      let out := out.toList.map plain
      (prompt :: state.toList).map plain ++ out ++ out.map parent
  | .regenerate state | .route state => [plain state]
  | .importTables table edges => (table :: edges.toList).map plain
  | .exportWorkbook prompt _ => [plain prompt]
  | .serve .. => []

end Command
end ClusterDiagram
