import FormFill.Browser.World
import FormFill.Form
import FormFill.Json.Reader

namespace FormFill.CommandLine

/-- Why a file does not give what a command needs. -/
inductive LoadFault where
  | unreachable (fault : FileFault)
  | missing
  | unreadable (fault : FileFault)
  | undecodable
  | malformed (error : Json.ReadError)
  | oversized (fault : NumeralFault)
  | notObject
  | notForm (refusal : Form.Refusal)

/-- A number with too many digits is no fault of the JSON text as such. -/
def LoadFault.ofReadError (error : Json.ReadError) : LoadFault :=
  match error.fault with
  | .oversized fault => .oversized fault
  | _ => .malformed error

/-- The value in a file of JSON text. -/
def readJson (files : Files) (path : Path) : Except LoadFault Json :=
  match files.holds path with
  | .error fault => .error (.unreachable fault)
  | .ok false => .error .missing
  | .ok true =>
    match files.readText path with
    | .error (.file fault) => .error (.unreadable fault)
    | .error .undecodable => .error .undecodable
    | .ok text => (Json.read files.halves text).mapError .ofReadError

/-- The record in a file, which must be an object. -/
def readRecord (files : Files) (path : Path) : Except LoadFault Members := do
  match ← readJson files path with
  | .obj members => .ok members
  | _ => .error .notObject

def readForm (files : Files) (path : Path) : Except LoadFault Form := do
  (Form.load (← readJson files path)).mapError .notForm

/-- An issue with its place, the steps of which are joined by points. -/
def issueLine (issue : Schema.Issue) : String :=
  let place := ".".intercalate (issue.place.map Schema.Place.text)
  s!"   {place}: {issue.cause.message}"

/-- What is said of a fault, given what the file is and where; nothing of a path that cannot be one,
    of bytes without text and of numbers that are too long. -/
def LoadFault.lines (label : String) (path : Path) : LoadFault → List String
  | .missing => [s!"❌ {label} file not found: {path.text}"]
  | .unreadable fault => [s!"❌ Could not read {label} file {path.text}: {fault.message}"]
  | .unreachable _ | .undecodable | .oversized _ => []
  | .malformed error => [s!"❌ Could not read {label} file {path.text}: {error.message}"]
  | .notObject => [s!"❌ {label} file must hold an object: {path.text}"]
  | .notForm refusal => s!"❌ {refusal.message}" :: refusal.issues.map issueLine

def say (text : String) : Act Unit :=
  Act.print (.line text)

/-- What was loaded. Without it, the fault is told; of what nothing is said ends the program. -/
def orSay {α : Type} (label : String) (path : Path) (loaded : Except LoadFault α) :
    Act (Option α) := do
  match loaded with
  | .ok value => return some value
  | .error .undecodable => throw .undecodable
  | .error (.unreachable fault) => throw (.file fault)
  | .error (.oversized fault) => throw (.numeral fault)
  | .error fault =>
    (fault.lines label path).forM say
    return none

def loadRecord (path : Path) : Act (Option Members) := do
  orSay "JSON" path (readRecord (← get).files path)

def loadForm (path : Path) : Act (Option Form) := do
  orSay "Selectors" path (readForm (← get).files path)

end FormFill.CommandLine
