import ClusterDiagram.CommandLine.Run
import ClusterDiagram.Prompt.Token
import ClusterDiagram.Service

/-!
# The command line program

Everything the program decides is decided by `Command.ofArguments`, `Command.run` and `Service.respond`;
here files are read and written and texts printed. The parse service talks over standard input and
output, for a super-server to connect.
-/

namespace ClusterDiagram
namespace Program

/-- How to call the program. -/
def usage : String :=
  "usage: diagram (parse | regenerate | route | import | export | serve) ..."

/-- What there is under a path. A file that holds no text counts as an empty one. -/
def contentAt (path : String) : IO (Option FileContent) := do
  try
    return some (.text (← IO.FS.readFile path))
  catch error =>
    match error with
    | .noFileOrDirectory .. | .noSuchThing .. => return none
    | .inappropriateType .. => return some .directory
    | _ => return some (.text "")

/-- The content of a file, written as text. A workbook is written sheet by sheet, each below its
title. -/
def writtenText : FileContent → String
  | .text text => text
  | .workbook sheets =>
      "\n".intercalate (sheets.map fun (title, rows) =>
        Delimited.write ([title] :: rows.map fun row => row.map Workbook.Cell.shownText))
  | .directory => ""

/-- Write a file. -/
def save (path : String) (content : FileContent) : IO Unit := do
  match content with
  | .workbook _ => IO.FS.createDirAll (Command.parent path)
  | _ => pure ()
  IO.FS.writeFile path (writtenText content)

/-- The settings of the present directory. -/
def loadSettings : IO (Settings Float) := do
  let present := Command.components ((← IO.getEnv "PWD").getD "/")
  let directories := (List.range (present.length + 1)).map fun count => present.take count
  let pathOf (directory : List String) := "/" ++ "/".intercalate directory
  let marked ← directories.filterM fun directory => do
    let file ← contentAt (pathOf (directory ++ [".env"]))
    let sources ← contentAt (pathOf (directory ++ ["src"]))
    return file.isSome || sources.isSome
  let root := Settings.root marked.contains present
  let file ← contentAt (pathOf (root ++ [".env"]))
  let names := ["VIZCODE_CANVAS_WIDTH", "VIZCODE_CANVAS_HEIGHT", "VIZCODE_PARSE_SERVICE_URL",
    "VIZCODE_USE_REMOTE", "VIZCODE_REMOTE_TIMEOUT"]
  let environment ← names.filterMapM fun name => do
    return (← IO.getEnv name).map fun value => (name, value)
  let text := match file with
    | some (.text text) => some text
    | _ => none
  return Settings.load (fun name => environment.lookup name) text

/-- What sessions work with. -/
def loadContext : IO (Session.Context Float) := do
  let settings ← loadSettings
  let now ← IO.monoMsNow
  let seed ← IO.rand 0 4095
  return { settings, token := Token.sequence now seed }

/-- Read the header lines of a call: names in lower case, and values. -/
partial def readHeaders (input : IO.FS.Stream) : IO (List (String × String)) := do
  let line := Text.trimChars (← input.getLine).toList
  if line.isEmpty then return []
  let name := line.takeWhile (· != ':')
  let value := Text.trimChars ((line.drop name.length).drop 1)
  return (String.ofList (Text.lowerChars name), String.ofList value) :: (← readHeaders input)

/-- Answer the calls on a stream until it ends. -/
partial def answerCalls (context : Session.Context Float) (input output : IO.FS.Stream)
    (service : Service) : IO Unit := do
  let line ← input.getLine
  if line.isEmpty then return
  let words := (String.ofList (Text.trimChars line.toList)).splitOn " "
  let headers ← readHeaders input
  let size := ((headers.lookup "content-length").bind String.toNat?).getD 0
  let body ← if size = 0 then pure ByteArray.empty else input.read size.toUSize
  let call : Service.Call :=
    { path := (words[1]?).getD "/"
      method := (words[0]?).getD "GET"
      contentType := headers.lookup "content-type"
      body := (String.fromUTF8? body).getD "" }
  let (service, answer) := service.respond context call
  let text := match answer.document with
    | some document => document.write 0 ++ "\n"
    | none => ""
  output.putStr ("HTTP/1.1 " ++ toString answer.status ++
    "\r\nContent-Type: application/json\r\nContent-Length: " ++ toString text.utf8ByteSize ++
    "\r\n\r\n" ++ text)
  output.flush
  answerCalls context input output service

/-- Run a command. -/
def execute (command : Command) : IO UInt32 := do
  let context ← loadContext
  match command with
  | .serve .. =>
      answerCalls context (← IO.getStdin) (← IO.getStdout) {}
      return 0
  | command =>
      let contents ← command.paths.mapM fun path => return (path, ← contentAt path)
      let files : Files := fun path => (contents.lookup path).join
      let world : Command.World Float := { files, context, reply := .unreachable "no network" }
      match command.run world with
      | .error failure =>
          IO.eprintln failure.message
          return 1
      | .ok report =>
          match report.written with
          | some (path, content) => save path content
          | none => pure ()
          IO.print report.output
          match report.error with
          | some error => IO.eprintln error
          | none => pure ()
          return report.exit.toUInt32

end Program
end ClusterDiagram

open ClusterDiagram in
/-- Run the program. -/
def main (arguments : List String) : IO UInt32 :=
  match Command.ofArguments arguments with
  | .error .help => do
      IO.println Program.usage
      return 0
  | .error .usage => do
      IO.eprintln Program.usage
      return 2
  | .ok command => Program.execute command
