import FormFill.Json

namespace FormFill

inductive LogLevel where
  | debug
  | info
  | warning
  | error
deriving DecidableEq, Repr

def LogLevel.name : LogLevel → String
  | .debug => "debug"
  | .info => "info"
  | .warning => "warning"
  | .error => "error"

/-- Why the log cannot be set up. -/
inductive LoggingFault where
  | unknownSeverity (name : String)
  | twoOutputs
deriving DecidableEq, Repr

def LoggingFault.message : LoggingFault → String
  | .unknownSeverity name => s!"module 'logging' has no attribute '{name}'"
  | .twoOutputs => "'stream' or 'filename' should not be specified together with 'handlers'"

/-- A message of the log with the values that go with it. -/
structure LogEntry where
  level : LogLevel
  event : String
  values : Members

/-- The values that describe an interaction with a field: its name, its action, and what else is
    known, private keys and nulls left out. -/
def fieldContext (field action : String) (others : Members) : Members :=
  Members.merge [("field", .str field), ("action", .str action)] <|
    others.filter fun (key, value) =>
      !key.startsWith "_" && match value with
        | .null => false
        | _ => true

end FormFill
