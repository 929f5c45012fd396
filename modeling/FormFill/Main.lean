import FormFill.CommandLine

namespace FormFill.CommandLine

/-- The files that a command deals with, as far as those at hand tell. -/
def Command.paths (settings : Settings) (files : Files) : Command → List Path
  | .run request =>
    let store : List Path :=
      match readForm files request.form with
      | .ok form =>
        [(IdentifierSource.ofOptions form.options.identifiers settings.storePath).store.path]
      | .error _ => []
    [request.record, request.form] ++ store
  | .validate form => [form]
  | .help | .version => []

/-- Adds a file, with the folders above it, to those at hand. -/
def withFile (path : Path) (content : ByteArray) (files : Files) : Files :=
  let (folders, _) := files.ensureFolders path.parent
  (folders.afterChange (folders.write path content)).1

/-- The files at hand with those at some paths, as far as they can be read. -/
def fetch (paths : List Path) (files : Files) : IO Files :=
  paths.foldlM (fun files path => do
    try
      return withFile path (← IO.FS.readBinFile path.text) files
    catch _ => return files) files

/-- Writes the files that are not as they were. -/
def store (before after : Files) : IO Unit :=
  after.regular.forM fun (place, content) => do
    let path := Path.below place
    let changed :=
      match before.read path with
      | .ok earlier => earlier != content
      | .error _ => true
    if changed then
      IO.FS.createDirAll path.parent.text
      IO.FS.writeBinFile path.text content

/-- The variables of the environment that settings are read from. -/
def environment : IO (List (String × String)) :=
  Settings.names.filterMapM fun name => do
    let source := (Settings.variableName name).toUpper
    return (← IO.getEnv source).map fun value => (source, value)

def showPrinted : Printed → IO Unit
  | .line text => IO.println text
  | .table title columns rows => do
    IO.println title
    (columns :: rows).forM fun row => IO.println (" | ".intercalate row)

/-- A page on which nothing is found. A run on it is a rehearsal. -/
def blankPage : Page :=
  { lookups := [], nodes := [], faults := [], openPages := 0, closed := true }

def misuseLine : Misuse → String
  | .noCommand => "Missing command."
  | .unknownCommand name => s!"No such command: {name}"
  | .unknownOption name => s!"No such option: {name}"
  | .missingValue option => s!"Option {option} requires an argument."
  | .needlessValue option => s!"Option {option} does not take a value."
  | .notNumber option value => s!"Invalid value for {option}: {value}"
  | .extraArgument argument => s!"Got unexpected extra argument: {argument}"

/-- What is said at the end, apart from what a command prints. -/
def closingLines : Ending → List String
  | .success | .refused => []
  | .misused misuse => [misuseLine misuse]
  | .crashed failure => [failure.message]

/-- A console without markup, a person who always answers, and a log without a handler. -/
def host : Host :=
  { answers := fun _ => true, console := .patient, logSite := .own false }

/-- Runs the program with the files, the variables and the chance of the machine. -/
def start (arguments : List String) : IO UInt32 := do
  let files ← fetch [Settings.filePath] .empty
  let .ok settings := Settings.load (← environment) files
    | IO.eprintln "The settings cannot be read."
      return 1
  let paths (files : Files) : List Path :=
    match Command.ofArguments settings arguments with
    | .ok command => command.paths settings files
    | .error _ => []
  let files ← fetch (paths files) files
  let files ← fetch (paths files) files
  let script ← (List.range 64).mapM fun _ => return Int.ofNat (← IO.rand 0 1000000000)
  let (ending, world) := execute settings arguments
    { page := blankPage, files, draws := ⟨script, 0⟩, host, opened := .nothing,
      trace := [], log := [], printed := [] }
  world.printed.forM showPrinted
  store files world.files
  (closingLines ending).forM fun line => IO.eprintln line
  return ending.exitCode.toUInt32

end FormFill.CommandLine

def main (arguments : List String) : IO UInt32 :=
  FormFill.CommandLine.start arguments
