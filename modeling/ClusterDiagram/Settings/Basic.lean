import ClusterDiagram.Decimal.Reader
import ClusterDiagram.Placement
import ClusterDiagram.Remote.Client
import ClusterDiagram.Settings.Assignments

/-!
# Settings

Settings come from the environment, then from a file of assignments, then from defaults. Numbers
that are blank or cannot be read count as absent. The file lies in the root directory, the nearest one
above the present that is marked.
-/

namespace ClusterDiagram

/-- What a session is run with. -/
structure Settings (α : Type) where
  /-- Drawing area of the layout. -/
  canvas : Canvas α
  /-- Address of the parse service. -/
  serviceAddress : String
  /-- Whether the parse service is asked after each text update. -/
  usesRemote : Bool
  /-- Seconds to wait for the parse service. -/
  timeout : α

namespace Settings

/-- Address of the parse service unless another one is set. -/
def defaultAddress : String := "http://localhost:5001"

/-- The number that a name is set to, unless it is blank or no number. -/
def number? (value? : String → Option String) (name : String) : Option Float :=
  match value? name with
  | none => none
  | some text => Decimal.read? text

/-- The spellings that switch the parse service on. -/
def switchedOn : List String := ["1", "true", "True"]

variable {α : Type} [Scalar α]

/-- The settings that some values give. -/
def ofValues (value? : String → Option String) : Settings α :=
  let number (name : String) (default : Nat) : α :=
    ((number? value? name).map Scalar.ofFloat).getD (default : α)
  { canvas := ⟨number "VIZCODE_CANVAS_WIDTH" 2000, number "VIZCODE_CANVAS_HEIGHT" 1200⟩
    serviceAddress :=
      dropSlashes ((value? "VIZCODE_PARSE_SERVICE_URL").getD defaultAddress)
    usesRemote := switchedOn.contains ((value? "VIZCODE_USE_REMOTE").getD "0")
    timeout := number "VIZCODE_REMOTE_TIMEOUT" 10 }

/-- The values of an environment, completed by a file of assignments. -/
def withFile (environment : String → Option String) (text : Option String) :
    String → Option String :=
  let assignments := Assignments.ofText environment (text.getD "")
  fun name => (environment name).or (assignments.lookup name).join

/-- The settings that an environment and a file of assignments give. -/
def load (environment : String → Option String) (text : Option String) : Settings α :=
  ofValues (withFile environment text)

/-- The client for the parse service. -/
def client (settings : Settings α) : Client :=
  Client.ofAddress settings.serviceAddress

/-- The nearest marked directory from the end of a path upwards, as the names from the top; the path
itself is given reversed. -/
def rootFrom? (isMarked : List String → Bool) : List String → Option (List String)
  | [] => if isMarked [] then some [] else none
  | name :: above =>
      if isMarked (name :: above).reverse then some (name :: above).reverse
      else rootFrom? isMarked above

/-- The root directory for a present directory: the nearest marked one, or else the present one. -/
def root (isMarked : List String → Bool) (present : List String) : List String :=
  (rootFrom? isMarked present.reverse).getD present

end Settings
end ClusterDiagram
