import FormFill.Browser.World
import FormFill.Record.Rendering

namespace FormFill

/-- Whether a text begins with a minus sign after blanks, and the ASCII digits that follow its sign. -/
def leadingDigits (text : List Char) : Bool × List Char :=
  let (negative, body) := Text.splitSign (text.dropWhile Text.isBlank)
  (negative, body.takeWhile Char.isDigit)

/-- The whole number that a text begins with. -/
def leadingInt? (text : List Char) : Option Int :=
  match leadingDigits text with
  | (_, []) => none
  | (negative, digits) => some (Text.withSign negative (Text.ofDigits digits))

/-- Reads the whole number that a text begins with, if it begins with one. -/
def readLeadingInt (text : List Char) : Except NumeralFault (Option Int) := do
  match leadingDigits text with
  | (_, []) => return none
  | (negative, digits) => return some (Text.withSign negative (← readDigits digits))

/-- Why the system is not even asked for a file, if its path is refused before. -/
def Files.refusal? (files : Files) (path : Path) : Option Failure :=
  match files.halves.nameFault? path.text.toList with
  | some fault => some (.unencodable fault)
  | none => if path.hasNul then some .nulInPath else none

/-- A file that holds the identifier used last. -/
structure IdentifierStore where
  path : Path
deriving DecidableEq, Repr

namespace IdentifierStore

def warn (store : IdentifierStore) (event : String) (values : Members) : Act Unit :=
  Act.log .warning "identifier_store" event (("path", .str store.path.text) :: values)

/-- The stored text without surrounding blanks, empty if the file cannot be read. -/
def load (store : IdentifierStore) : Act String := do
  let files := (← get).files
  Act.failOn (files.refusal? store.path)
  match files.readText store.path with
  | .ok text => return String.ofList (Text.strip text)
  | .error (.file fault) =>
    if fault.cause ≠ .notFound then
      store.warn "Could not read last identifier" [("error", .str fault.message)]
    return ""
  | .error .undecodable => throw .undecodable

/-- The files after the text is stored in them, with missing folders created, and the fault if the system
    did not let it be stored. A path that is refused and a text without UTF-8 form are failures. -/
def put (store : IdentifierStore) (text : List Char) (files : Files) :
    Files × Except Failure (Option FileFault) :=
  match files.refusal? store.path.parent with
  | some failure => (files, .error failure)
  | none =>
    match files.ensureFolders store.path.parent with
    | (files, some fault) => (files, .ok (some fault))
    | (files, none) =>
      match files.refusal? store.path with
      | some failure => (files, .error failure)
      | none =>
        let (files, written) := files.writeText store.path text
        (files, written.mapError .unencodable)

/-- Stores a value as it is shown, and tells whether that succeeded. -/
def save (store : IdentifierStore) (value : Json) : Act Bool := do
  let (files, stored) := store.put value.plain (← get).files
  modify fun world => { world with files }
  match stored with
  | .ok none => return true
  | .ok (some fault) =>
    store.warn "Could not save last identifier"
      [("value", value), ("error", .str fault.message)]
    return false
  | .error failure => throw failure

end IdentifierStore

/-- Hands out identifiers to records that have none: the stored number plus one, or the start value
    where no number is stored. -/
structure IdentifierSource where
  store : IdentifierStore
  start : Option String
  recordKey : String
deriving DecidableEq, Repr

/-- An identifier, empty if there is none, and what the record is to be changed by. -/
structure Assigned where
  value : String
  patch : Option Patch
deriving DecidableEq, Repr

namespace IdentifierSource

def ofOptions (options : IdentifierOptions) (defaultPath : String) : IdentifierSource :=
  { store := ⟨.ofText ((given options.file).getD defaultPath)⟩, start := options.start,
    recordKey := options.recordKey }

/-- The identifier that a record brings along: anything but null and the empty text. -/
def existing? (source : IdentifierSource) (record : Json) : Option Json :=
  match record.get? source.recordKey with
  | none | some .null | some (.str "") => none
  | some value => some value

/-- The identifier after a stored text. -/
def successor (source : IdentifierSource) (last : String) : Except NumeralFault String := do
  match ← readLeadingInt last.toList with
  | some previous => return String.ofList (← showInt (previous + 1))
  | none => return source.start.getD ""

def lastValue (last : String) : Json :=
  if last = "" then .null else .str last

def log (level : LogLevel) (event : String) (values : Members) : Act Unit :=
  Act.log level "auto_identifier" event values

/-- The identifier of a record. One that it brings along is stored; else the next one is assigned,
    stored, and put into the record. -/
def next (source : IdentifierSource) (record : Json) : Act Assigned := do
  match source.existing? record with
  | some existing =>
    Act.failOn ((Record.overlong? existing).map .numeral)
    let value := String.ofList (Record.textOf existing)
    let _ ← source.store.save (.str value)
    log .debug "Using identifier from record" [("identifier", .str value)]
    return ⟨value, none⟩
  | none =>
    let last ← source.store.load
    let value ← Act.ofResult ((source.successor last).mapError .numeral)
    if value = "" then
      log .info "No identifier available" [("last", lastValue last)]
      return ⟨"", none⟩
    let _ ← source.store.save (.str value)
    log .info "Assigned identifier"
      [("identifier", .str value), ("previous", lastValue last)]
    return ⟨value, some ⟨source.recordKey, value⟩⟩

end IdentifierSource
end FormFill
