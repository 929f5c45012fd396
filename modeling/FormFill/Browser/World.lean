import FormFill.Address
import FormFill.Browser.Page
import FormFill.Files.Text
import FormFill.Log
import FormFill.Number.Numeral
import FormFill.Outcome

namespace FormFill

/-- The parts of a started browser that are held open. -/
structure Opened where
  driver : Bool
  browser : Bool
  context : Bool
  page : Bool
deriving DecidableEq, Repr

def Opened.nothing : Opened := ⟨false, false, false, false⟩

/-- A table or a line on the console. -/
inductive Printed where
  | line (text : String)
  | table (title : String) (columns : List String) (rows : List (List String))
deriving DecidableEq, Repr

/-- Random draws that are known beforehand. They are used one after the other and start over at the
    end; without any, every draw is the lowest possible. -/
structure Draws where
  script : List Int
  used : Nat
deriving DecidableEq, Repr

/-- The number that the next draw gives from a window that is not empty. -/
def Draws.next (draws : Draws) (low high : Int) : Int :=
  let value := (draws.script[draws.used % draws.script.length]?).getD 0
  low + value % (high - low + 1)

/-- The console, which may refuse what it is to show. Brackets are markup to it; a line of ordinary characters
    without brackets is always shown. -/
structure Console where
  fault? : Printed → Option String
  shows : ∀ text, (∀ c ∈ text.toList, c ≠ '[' ∧ c.toNat < 0xF0000) → fault? (.line text) = none

/-- A console that shows everything. -/
def Console.patient : Console := ⟨fun _ => none, fun _ _ => rfl⟩

/-- Where the log goes: to one that the surroundings set up in place of the program, or to one that the program sets
    up itself, with or without a handler in place. -/
inductive LogSite where
  | ready
  | own (handled : Bool)
deriving DecidableEq, Repr

/-- What stands around a program: whether a person who is asked to act does so, the console, and the log. -/
structure Host where
  answers : Event → Bool
  console : Console
  logSite : LogSite

/-- All that a run deals with: the page, the files, the source of chance, what stands around it, and
    what has been done, logged and printed so far. -/
structure World where
  page : Page
  files : Files
  draws : Draws
  host : Host
  opened : Opened
  trace : List Event
  log : List LogEntry
  printed : List Printed

/-- Why something came to an early end. -/
inductive Failure where
  | browser (error : BrowserError)
  | pageNotReady (selector : String) (timeout : Nat)
  | fieldFailed (outcome : Outcome) (report : Report)
  | undecodable
  | unencodable (fault : Text.EncodeFault)
  | nulInPath
  | numeral (fault : NumeralFault)
  | file (fault : FileFault)
  | brokenOff
  | emptyWindow (low high : Int)
  | overlongPause
  | address (fault : AddressFault)
  | console (text : String)
  | logging (fault : LoggingFault)

/-- An action in the world; what it has done stays done when it fails. -/
abbrev Act (α : Type) := ExceptT Failure (StateM World) α

namespace World

def note (event : Event) (world : World) : World :=
  { world with trace := world.trace ++ [event] }

def write (entry : LogEntry) (world : World) : World :=
  { world with log := world.log ++ [entry] }

def print (printed : Printed) (world : World) : World :=
  { world with printed := world.printed ++ [printed] }

end World

namespace Act

def note (event : Event) : Act Unit :=
  modify (World.note event)

def log (level : LogLevel) (component event : String) (values : Members) : Act Unit :=
  modify (World.write ⟨level, event, ("component", .str component) :: values⟩)

def print (printed : Printed) : Act Unit := do
  match (← get).host.console.fault? printed with
  | some text => throw (.console text)
  | none => modify (World.print printed)

/-- Ends the way that a result says. -/
def ofResult {α : Type} : Except Failure α → Act α
  | .ok value => return value
  | .error failure => throw failure

/-- Ends with a failure if there is one. -/
def failOn : Option Failure → Act Unit
  | some failure => throw failure
  | none => return ()

/-- Notes an event, then ends with the error that is planned for it, if there is one. -/
def perform (event : Event) : Act Unit := do
  let world ← get
  note event
  match world.page.error? world.trace event with
  | some error => throw (.browser error)
  | none => pure ()

/-- Does something that may fail and goes on with how it ended. -/
def attempt {α : Type} (action : Act α) : Act (Except Failure α) :=
  tryCatch (Except.ok <$> action) fun failure => return Except.error failure

/-- Errors of the browser are answered by `handler`, all other failures go on. -/
def catchBrowser {α : Type} (action : Act α) (handler : BrowserError → Act α) : Act α :=
  tryCatch action fun
    | .browser error => handler error
    | failure => throw failure

def call (call : Call) : Act Unit :=
  perform (.call call)

/-- A call on an element; the answer is up to its node. -/
def element (handle : Handle) (call : ElementCall) : Act Node := do
  perform (.element handle call)
  return (← get).page.node handle.node

/-- Looks for elements on the page or inside an element. This never fails. -/
def lookup (owner : Option Handle) (lookup : Lookup) : Act Handle := do
  note (.lookup owner lookup)
  return ⟨(← get).page.find owner lookup, false⟩

def count (handle : Handle) : Act Int :=
  return (← element handle .count).count

/-- Asks a person to act, who may break off instead. -/
def ask (event : Event) : Act Unit := do
  note event
  if !(← get).host.answers event then throw .brokenOff

/-- A number from a window, both ends included. -/
def draw (low high : Int) : Act Int := do
  note (.draw low high)
  if high < low then throw (.emptyWindow low high)
  let draws := (← get).draws
  modify fun world => { world with draws := { draws with used := draws.used + 1 } }
  return draws.next low high

end Act
end FormFill
