import FormFill.CommandLine.Arguments
import FormFill.Settings

namespace FormFill.CommandLine

/-- How a form is to be filled. -/
structure RunRequest where
  record : Path
  form : Path
  safe : Bool
  headed : Bool
  headless : Bool
  submit : Bool
  slowMotion : Option Int
  typingDelay : Option Int
  betweenFieldsDelay : Option Int
  userDataDir : Option String
  logLevel : Option String
deriving DecidableEq, Repr

/-- What the program can be asked to do. -/
inductive Command where
  | help
  | run (request : RunRequest)
  | validate (form : Path)
  | version
deriving DecidableEq, Repr

namespace Command

def helpOption : String × Operand := ("--help", .none)

def runOptions : List (String × Operand) :=
  [("--json", .value), ("--selectors", .value), ("--safe", .none), ("--headed", .none),
   ("--headless", .none), ("--submit", .none), ("--slowmo", .value), ("--typing-delay", .value),
   ("--between-delay", .value), ("--user-data-dir", .value), ("--log-level", .value), helpOption]

def validateOptions : List (String × Operand) := [("--selectors", .value), helpOption]

def versionOptions : List (String × Operand) := [helpOption]

/-- A path that is given by an option, or else by the settings. -/
def pathOf (arguments : Arguments) (name fallback : String) : Path :=
  .ofText ((arguments.value? name).getD fallback)

def runOf (settings : Settings) (arguments : Arguments) : Except Misuse Command := do
  let slowMotion ← arguments.number? "--slowmo"
  let typingDelay ← arguments.number? "--typing-delay"
  let betweenFieldsDelay ← arguments.number? "--between-delay"
  return .run
    { record := pathOf arguments "--json" settings.recordPath
      form := pathOf arguments "--selectors" settings.formPath
      safe := arguments.has "--safe"
      headed := arguments.has "--headed"
      headless := arguments.has "--headless"
      submit := arguments.has "--submit"
      slowMotion
      typingDelay
      betweenFieldsDelay
      userDataDir := arguments.value? "--user-data-dir"
      logLevel := arguments.value? "--log-level" }

/-- A command from its sorted arguments. Help goes before all that is wrong with values and before
    arguments that are too many. -/
def finish (arguments : Arguments) (command : Except Misuse Command) : Except Misuse Command :=
  if arguments.has "--help" then .ok .help
  else
    match arguments.others with
    | [] => command
    | extra :: _ => .error (.extraArgument extra)

def ofName (settings : Settings) (name : String) (rest : List String) : Except Misuse Command := do
  match name with
  | "run" =>
    let arguments ← Arguments.sort runOptions true rest
    finish arguments (runOf settings arguments)
  | "validate" =>
    let arguments ← Arguments.sort validateOptions true rest
    finish arguments (.ok (.validate (pathOf arguments "--selectors" settings.formPath)))
  | "version" =>
    let arguments ← Arguments.sort versionOptions true rest
    finish arguments (.ok .version)
  | _ => .error (.unknownCommand name)

/-- The command that arguments ask for. -/
def ofArguments (settings : Settings) (arguments : List String) : Except Misuse Command := do
  let arguments ← Arguments.sort [helpOption] false arguments
  if arguments.has "--help" then return .help
  match arguments.others with
  | [] => .error .noCommand
  | name :: rest => ofName settings name rest

end Command
end FormFill.CommandLine
