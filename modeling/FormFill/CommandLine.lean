import FormFill.Browser.Session
import FormFill.CommandLine.Command
import FormFill.CommandLine.Listing
import FormFill.CommandLine.Loading
import FormFill.Failure
import FormFill.Logging
import FormFill.Run

namespace FormFill.CommandLine

/-- How the program ends. -/
inductive Ending where
  | success
  | refused
  | misused (misuse : Misuse)
  | crashed (failure : Failure)

def Ending.exitCode : Ending → Nat
  | .success => 0
  | .refused => 1
  | .misused _ => 2
  | .crashed _ => 1

namespace RunRequest

def overrides (request : RunRequest) : Overrides :=
  { safe := request.safe, slowMotion := request.slowMotion, typingDelay := request.typingDelay,
    betweenFieldsDelay := request.betweenFieldsDelay, userDataDir := request.userDataDir }

/-- Whether no window is shown: if that is asked for, or if nothing asks for a window. -/
def hidesBrowser (request : RunRequest) : Bool :=
  request.headless || (!request.headed && !request.safe)

/-- Whether the browser stays open until a person closes it. -/
def leavesOpen (request : RunRequest) : Bool :=
  request.headed && !request.headless

def session (settings : Settings) (request : RunRequest) (form : Form) : Session :=
  { headless := request.hidesBrowser, slowMotion := form.options.slowMotion,
    userDataDir := form.options.userDataDir, channel := settings.browserChannel }

end RunRequest

def reviewMessage : String :=
  "Review the page, then press Enter to close the browser..."

def leftOpenMessage : String :=
  "👀 Browser left open for review. Close it when done."

/-- Gives a person the time to look at the filled form. -/
def awaitReview (request : RunRequest) (form : Form) : Act Unit := do
  if form.options.pauseForReview then Run.ask .console reviewMessage
  else if request.leavesOpen then
    say leftOpenMessage
    Session.waitUntilClosed

/-- Fills a form in a browser, which is closed afterwards. -/
def fill (settings : Settings) (request : RunRequest) (form : Form) (record : Members) :
    Act Report := do
  (request.session settings form).start
  Session.closingAfter do
    let run : Run :=
      { form, identifiers := .ofOptions form.options.identifiers settings.storePath,
        operator := .console, submit := request.submit }
    let report ← run.perform record
    awaitReview request form
    return report

/-- Tells how a filling ended. Failures that do not come from the page or the browser go on. -/
def conclude : Except Failure Report → Act Ending
  | .ok report => do
    printReport report
    return .success
  | .error failure => do
    match failure with
    | .fieldFailed _ report =>
      say s!"❌ {failure.message}"
      printReport report
      return .refused
    | .pageNotReady .. | .browser _ =>
      say s!"❌ Run failed: {failure.message}"
      return .refused
    | _ => throw failure

/-- Sets up the log, unless the surroundings do that. -/
def setUpLog (settings : Settings) (level : Option String) : Act Unit := do
  Act.note (.configureLogging level)
  match (← get).host.logSite with
  | .ready => return ()
  | .own handled =>
    let _ ← Act.ofResult ((Logging.configure settings level none handled).mapError .logging)

def run (settings : Settings) (request : RunRequest) : Act Ending := do
  setUpLog settings request.logLevel
  let some record ← loadRecord request.record | return .refused
  let some form ← loadForm request.form | return .refused
  let options := form.options.override settings.safePresets request.overrides
  conclude (← Act.attempt (fill settings request { form with options } record))

def validate (path : Path) : Act Ending := do
  let some form ← loadForm path | return .refused
  printForm form
  return .success

def versionLine : String := "formpilot v0.1.0"

/-- The files that a command is pointed to. -/
def Command.targets : Command → List Path
  | .run request => [request.record, request.form]
  | .validate form => [form]
  | .help | .version => []

def dispatch (settings : Settings) : Command → Act Ending
  | .help => return .success
  | .run request => run settings request
  | .validate form => validate form
  | .version => do
    say versionLine
    return .success

/-- Does what a command says, unless it is pointed to a file that cannot be. -/
def perform (settings : Settings) (command : Command) : Act Ending := do
  if command.targets.any Path.hasNul then throw .nulInPath
  dispatch settings command

/-- Does what the arguments ask for. -/
def execute (settings : Settings) (arguments : List String) (world : World) : Ending × World :=
  match Command.ofArguments settings arguments with
  | .error misuse => (.misused misuse, world)
  | .ok command =>
    match (perform settings command).run.run world with
    | (.ok ending, world) => (ending, world)
    | (.error failure, world) => (.crashed failure, world)

end FormFill.CommandLine
