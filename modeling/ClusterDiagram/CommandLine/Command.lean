import ClusterDiagram.CommandLine.Arguments

/-!
# Commands

The first value on a command line names the command; what follows are the arguments of that command.
-/

namespace ClusterDiagram

/-- What can be asked on a command line. -/
inductive Command where
  /-- Read a prompt and write a snapshot. -/
  | parse (prompt : String) (state out : Option String) (remote : Bool)
  /-- Write the prompt of a saved diagram. -/
  | regenerate (state : String)
  /-- Write the routes of a saved diagram. -/
  | route (state : String)
  /-- Write the prompt of tables. -/
  | importTables (table : String) (edges : Option String)
  /-- Read a prompt and write a workbook. -/
  | exportWorkbook (prompt out : String)
  /-- Run the parse service. -/
  | serve (host socket : String)
  deriving DecidableEq, Repr

namespace Command

open Arguments

/-- Whether a text is a whole number. -/
def isWhole (text : String) : Bool :=
  match Decimal.takeDigits 0 0 (Decimal.takeSign (Text.trimChars text.toList)).2 with
  | (_, count, rest) => 0 < count && rest.isEmpty

/-- The switch that asks for more messages. -/
def verbose : Switch := ⟨["-v", "--verbose"], false, fun _ => true⟩

/-- A switch with a value. -/
def valued (name : String) : Switch := ⟨[name], true, fun _ => true⟩

/-- Read the arguments of a command with some switches and a number of values. The flag tells whether
nothing was left over. -/
def build (switches : List Switch) (count : Nat) (make : Reading → Option Command)
    (arguments : List String) : Except Refusal (Command × Bool) := do
  let reading ← Arguments.read (Switch.help :: switches) count arguments
  match make reading with
  | some command => return (command, !reading.hasRest)
  | none => throw .usage

/-- Read the arguments of the command with a name. -/
def ofNamed (name : String) (arguments : List String) : Except Refusal (Command × Bool) :=
  match name with
  | "parse" =>
      let remote : Switch := ⟨["--remote"], false, fun _ => true⟩
      build [valued "--state", valued "--out", remote, verbose] 1
        (fun reading => reading.values.head?.map fun prompt =>
          .parse prompt (Text.nonempty (reading.find? "--state")) (Text.nonempty (reading.find? "--out"))
            (reading.isGiven "--remote"))
        arguments
  | "regenerate" =>
      build [] 1 (fun reading => reading.values.head?.map .regenerate) arguments
  | "route" =>
      build [verbose] 1 (fun reading => reading.values.head?.map .route) arguments
  | "import" =>
      build [valued "--edges"] 1
        (fun reading => reading.values.head?.map fun table =>
          .importTables table (Text.nonempty (reading.find? "--edges")))
        arguments
  | "export" =>
      build [] 2
        (fun reading =>
          match reading.values with
          | [prompt, out] => some (.exportWorkbook prompt out)
          | _ => none)
        arguments
  | "serve" =>
      build [valued "--host", ⟨["--port"], true, isWhole⟩] 0
        (fun reading =>
          some (.serve ((reading.find? "--host").getD "127.0.0.1")
            ((reading.find? "--port").getD "5001")))
        arguments
  | _ => .error .usage

/-- Read what stands before the name of the command, then the command; `clean` tells whether nothing was
left over so far. -/
def ofWords (clean : Bool) : List String → Except Refusal Command
  | [] => .error .usage
  | text :: texts =>
      if text = "--" then .error .usage
      else
        match classify [Switch.help] text with
        | .error refusal => .error refusal
        | .ok (.value name) =>
            match ofNamed name texts with
            | .error refusal => .error refusal
            | .ok (command, all) => if clean && all then .ok command else .error .usage
        | .ok (.switch switch name attached) =>
            match takeSwitch [Switch.help] switch name attached with
            | .error refusal => .error refusal
            | .ok _ => .error .help
        | .ok _ => ofWords false texts

/-- Read a command line. -/
def ofArguments (arguments : List String) : Except Refusal Command :=
  ofWords true arguments

end Command
end ClusterDiagram
