import ClusterDiagram.Decimal.Reader

/-!
# Arguments

The arguments of a command are values and switches. A switch may be shortened as long as it stays
unambiguous, a value may be attached to it by an equals sign, and switches of one letter may be joined.
After two hyphens everything is a value. What looks like a negative number or holds a blank is a value
too, unless it names a switch.
-/

namespace ClusterDiagram
namespace Arguments

/-- Why arguments are not carried out. -/
inductive Refusal where
  /-- They do not fit the command. -/
  | usage
  /-- They ask for help. -/
  | help
  deriving DecidableEq, Repr

/-- A switch of a command. -/
structure Switch where
  /-- Its spellings, the shortest first. -/
  names : List String
  /-- Whether a value follows it. -/
  takesValue : Bool
  /-- The values that may follow it. -/
  accepts : String → Bool := fun _ => true

/-- The switch that asks for help. -/
def Switch.help : Switch := ⟨["-h", "--help"], false, fun _ => true⟩

/-- Whether a switch asks for help. -/
def Switch.isHelp (switch : Switch) : Bool :=
  switch.names.contains "--help"

/-- One argument. -/
inductive Word where
  /-- A value. -/
  | value (text : String)
  /-- The two hyphens after which everything is a value. -/
  | separator
  /-- A switch, by one of its spellings and perhaps with an attached value. -/
  | switch (switch : Switch) (name : String) (attached : Option String)
  /-- A switch that the command does not have. -/
  | unknown

/-- Every spelling of every switch. -/
def spellings (switches : List Switch) : List (String × Switch) :=
  switches.flatMap fun switch => switch.names.map fun name => (name, switch)

/-- The switch with a spelling. -/
def find? (switches : List Switch) (name : String) : Option Switch :=
  (spellings switches).lookup name

/-- Cut a text at its first equals sign. -/
def cutAtEquals (text : String) : String × Option String :=
  let before := text.toList.takeWhile (· != '=')
  match text.toList.drop before.length with
  | _ :: after => (String.ofList before, some (String.ofList after))
  | [] => (text, none)

/-- Every reading of an argument as a shortened spelling, or as a switch of one letter with something
joined to it. -/
def readings (switches : List Switch) (text : String) : List Word :=
  if "--".toList.isPrefixOf text.toList then
    let (lead, attached) := cutAtEquals text
    (spellings switches).filterMap fun (name, switch) =>
      if lead.toList.isPrefixOf name.toList then some (.switch switch name attached) else none
  else
    (spellings switches).filterMap fun (name, switch) =>
      if name.toList = text.toList.take 2 then
        some (.switch switch name (some (String.ofList (text.toList.drop 2))))
      else if text.toList.isPrefixOf name.toList then some (.switch switch name none)
      else none

/-- Whether a text is written like a negative number. -/
def isNegativeNumber (text : String) : Bool :=
  let isDigit (c : Char) : Bool := (Text.digitValue? c).isSome
  match text.toList with
  | '-' :: rest =>
      match rest.dropWhile isDigit with
      | [] => !rest.isEmpty
      | '.' :: places => !places.isEmpty && places.all isDigit
      | _ => false
  | _ => false

/-- Classify an argument before the two hyphens. -/
def classify (switches : List Switch) (text : String) : Except Refusal Word :=
  if text.toList.head? != some '-' then .ok (.value text)
  else
    match find? switches text with
    | some switch => .ok (.switch switch text none)
    | none =>
        if text.length = 1 then .ok (.value text)
        else
          let (lead, attached) := cutAtEquals text
          match attached, find? switches lead with
          | some attached, some switch => .ok (.switch switch lead (some attached))
          | _, _ =>
              match readings switches text with
              | [word] => .ok word
              | [] =>
                  if isNegativeNumber text || text.toList.contains ' ' then .ok (.value text)
                  else .ok .unknown
              | _ => .error .usage

/-- Classify the arguments of a command. -/
def classifyAll (switches : List Switch) : List String → Except Refusal (List Word)
  | [] => .ok []
  | text :: texts =>
      if text = "--" then .ok (.separator :: texts.map .value)
      else do
        let word ← classify switches text
        return word :: (← classifyAll switches texts)

/-- What the arguments of a command say. -/
structure Reading where
  /-- The switches given, by their last spelling, with their values; the latest first. -/
  switches : List (String × String) := []
  /-- The values that belong to no switch. -/
  values : List String := []
  /-- Whether something was left over. -/
  hasRest : Bool := false

namespace Reading

/-- The value of a switch, where it is given. -/
def find? (reading : Reading) (name : String) : Option String :=
  reading.switches.lookup name

/-- Whether a switch is given. -/
def isGiven (reading : Reading) (name : String) : Bool :=
  (reading.find? name).isSome

/-- Note a switch. -/
def give (reading : Reading) (switch : Switch) (value : String) : Except Refusal Reading :=
  if switch.isHelp then .error .help
  else if switch.accepts value then
    .ok { reading with switches := (switch.names.getLastD "", value) :: reading.switches }
  else .error .usage

end Reading

/-- Take joined switches of one letter apart: the switches in order, and the value of the last one
where it is attached. -/
def takeJoined (switches : List Switch) (switch : Switch) :
    List Char → Except Refusal (List Switch × Option String)
  | [] => if switch.takesValue then .ok ([switch], some "") else .error .usage
  | c :: rest =>
      if switch.takesValue then .ok ([switch], some (String.ofList (c :: rest)))
      else
        match find? switches (String.ofList ['-', c]) with
        | none => .error .usage
        | some next =>
            if rest.isEmpty then .ok ([switch, next], none)
            else (takeJoined switches next rest).map fun (others, value) => (switch :: others, value)

/-- The switches that one argument gives, in order, and the value attached to the last one. -/
def takeSwitch (switches : List Switch) (switch : Switch) (name : String) :
    Option String → Except Refusal (List Switch × Option String)
  | none => .ok ([switch], none)
  | some attached =>
      if switch.takesValue then .ok ([switch], some attached)
      else if "--".toList.isPrefixOf name.toList then .error .usage
      else takeJoined switches switch attached.toList

/-- Note the switches of one argument, the last one with a value. -/
def giveAll (reading : Reading) (value : String) : List Switch → Except Refusal Reading
  | [] => .ok reading
  | [switch] => reading.give switch value
  | switch :: others => do giveAll (← reading.give switch "") value others

/-- Read classified arguments; `count` values belong to no switch, and `follows` tells whether the
argument just before is one of them. -/
def readWords (switches : List Switch) (count : Nat) :
    Reading → Bool → List Word → Except Refusal Reading
  | reading, _, [] => .ok reading
  | reading, _, .value text :: words =>
      if reading.values.length < count then
        readWords switches count { reading with values := reading.values ++ [text] } true words
      else readWords switches count { reading with hasRest := true } false words
  | reading, follows, .separator :: words =>
      let leads := decide (reading.values.length < count) && !words.isEmpty
      readWords switches count
        { reading with hasRest := reading.hasRest || !(follows || leads) } false words
  | reading, _, .unknown :: words =>
      readWords switches count { reading with hasRest := true } false words
  | reading, _, .switch switch name attached :: words =>
      match takeSwitch switches switch name attached with
      | .error refusal => .error refusal
      | .ok (given, some value) =>
          match giveAll reading value given with
          | .error refusal => .error refusal
          | .ok reading => readWords switches count reading false words
      | .ok (given, none) =>
          if (given.getLast?.map (·.takesValue)).getD false then
            match words with
            | .value value :: words =>
                match giveAll reading value given with
                | .error refusal => .error refusal
                | .ok reading => readWords switches count reading false words
            | _ => .error .usage
          else
            match giveAll reading "" given with
            | .error refusal => .error refusal
            | .ok reading => readWords switches count reading false words

/-- Read the arguments of a command with some switches and a number of values. -/
def read (switches : List Switch) (count : Nat) (arguments : List String) :
    Except Refusal Reading := do
  let words ← classifyAll switches arguments
  let reading ← readWords switches count {} false words
  if reading.values.length < count then throw .usage
  return reading

end Arguments
end ClusterDiagram
