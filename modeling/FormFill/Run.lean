import FormFill.Executor
import FormFill.Form

namespace FormFill

/-- Who is asked to act when a run waits for a person. -/
inductive Operator where
  | absent
  | present
  | console
deriving DecidableEq, Repr

/-- One filling of a form. -/
structure Run where
  form : Form
  identifiers : IdentifierSource
  operator : Operator
  submit : Bool
deriving DecidableEq, Repr

namespace Run

def timing (run : Run) : Timing :=
  .ofOptions run.form.options

def executor (run : Run) : Executor :=
  ⟨run.timing, some run.identifiers⟩

def log (level : LogLevel) (event : String) (values : Members) : Act Unit :=
  Act.log level "form_runner" event values

/-- Asks a person to act, who answers when done. On the console the answer stands on the same line. -/
def ask (operator : Operator) (message : String) : Act Unit :=
  match operator with
  | .absent =>
    log .warning "No operator prompt available, continuing" [("message", .str message)]
  | .present => Act.ask (.ask message)
  | .console => Act.ask (.askConsole (message ++ " "))

def manualStartMessage : String :=
  "Complete login/navigation, then press Enter to start auto-fill..."

def clipboardPermissions : List String := ["clipboard-read", "clipboard-write"]

/-- Lets the page use the clipboard; a refusal is only a warning. -/
def grantClipboard (url : String) : Act Unit := do
  match Address.origin url with
  | .error fault => throw (.address fault)
  | .ok origin =>
    Act.catchBrowser (Act.call (.grantPermissions clipboardPermissions origin)) fun error =>
      log .warning "Clipboard permission not granted"
        [("origin", .str origin), ("error", .str error.text)]

/-- Waits for an element that shows that the page is ready. -/
def awaitReady (selector : String) (timeout : Nat) : Act Unit :=
  Act.catchBrowser (Act.call (.waitForSelector selector timeout)) fun error =>
    throw (if error.timedOut then .pageNotReady selector timeout else .browser error)

/-- Opens the page and brings it to the point where filling can begin. -/
def preparePage (run : Run) : Act Unit := do
  let options := run.form.options
  log .info "Opening form"
    [("url", .str run.form.url), ("wait_until", .str options.waitUntil.name)]
  Act.call (.goto run.form.url options.waitUntil)
  if options.pauseForManualStart then ask run.operator manualStartMessage
  match given options.readySelector with
  | some selector => awaitReady selector options.readyTimeout
  | none => pure ()
  Timing.pause options.pauseBeforeFill
  if options.grantClipboard && run.form.usesClipboard then grantClipboard run.form.url

/-- Deals with one field and adds its outcome to the report. A failed field ends the run unless it
    is to go on. -/
def runField (run : Run) (field : Field) (report : Report) : Act Report := do
  let outcome ← run.executor.execute field (.obj report.record)
  let report := report.add outcome
  if outcome.status = .failed && !run.form.options.continueOnError then
    throw (.fieldFailed outcome report)
  return report

/-- Deals with fields in order, with a pause after each. -/
def runFields (run : Run) : List Field → Report → Act Report
  | [], report => return report
  | field :: fields, report => do
    let report ← run.runField field report
    let _ ← run.timing.betweenFields
    runFields run fields report

/-- The steps that follow the fields. -/
def finalSteps (form : Form) : List Field :=
  (if form.options.clickDraft then form.draft.toList else []) ++
  (if form.options.clickSaveProgress then form.saveProgress.toList else [])

def runSteps (run : Run) : List Field → Report → Act Report
  | [], report => return report
  | field :: fields, report => do
    let report ← run.runField field report
    runSteps run fields report

def submitSelector (form : Form) : Option String :=
  given (form.submit.bind (·.selector))

/-- Sends the form off if that is asked for and the form says how. -/
def finish (run : Run) (report : Report) : Act Report := do
  match submitSelector run.form, run.submit with
  | some selector, true =>
    Act.call (.click selector)
    log .info "Submitted form" [("selector", .str selector)]
    return { report with submitted := true }
  | some _, false =>
    log .info "Form filled. Review the page, then rerun with --submit if desired." []
    return report
  | none, _ =>
    log .info "Form filled. Review the page before submitting." []
    return report

/-- Fills the form from a record. -/
def perform (run : Run) (record : Members) : Act Report := do
  preparePage run
  let report : Report :=
    { url := run.form.url, outcomes := [], record, submitted := false, finished := false }
  let report ← run.runFields run.form.fields report
  let report ← run.runSteps (finalSteps run.form) report
  Timing.pause run.form.options.pauseAfterDraft
  let report ← run.finish report
  let counts := [Status.applied, .skipped, .failed].map fun status =>
    (status.name, Json.int (report.count status))
  log .info "Run completed" counts
  return { report with finished := true }

end Run
end FormFill
