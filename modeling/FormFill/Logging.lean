import FormFill.Field
import FormFill.Log
import FormFill.Settings

namespace FormFill

/-- How grave a message has to be to be shown. -/
inductive Severity where
  | notSet
  | debug
  | info
  | warning
  | error
  | critical
deriving DecidableEq, Repr

def Severity.name : Severity → String
  | .notSet => "notset"
  | .debug => "debug"
  | .info => "info"
  | .warning => "warning"
  | .error => "error"
  | .critical => "critical"

/-- The names of severities; two have a second one. -/
def Severity.byName : List (String × Severity) :=
  [("NOTSET", .notSet), ("DEBUG", .debug), ("INFO", .info), ("WARNING", .warning),
   ("WARN", .warning), ("ERROR", .error), ("CRITICAL", .critical), ("FATAL", .critical)]

inductive LogFormat where
  | console
  | json
deriving DecidableEq, Repr

def LogFormat.name : LogFormat → String
  | .console => "console"
  | .json => "json"

/-- How the log is written. -/
structure Logging where
  severity : Severity
  format : LogFormat
deriving DecidableEq, Repr

namespace Logging

/-- The name of the severity that is asked for, in upper case. -/
def severityName (settings : Settings) (asked : Option String) : String :=
  let fallback := if settings.debug then "DEBUG" else settings.logLevel
  String.ofList (Text.upper ((given asked).getD fallback).toList)

def formatOf (settings : Settings) (asked : Option String) : LogFormat :=
  let name := (given asked).getD settings.logFormat
  if Text.lower name.toList = LogFormat.json.name.toList then .json else .console

/-- Sets up the log. Where no handler is in place yet, two outputs are asked for at once, which is
    refused. -/
def configure (settings : Settings) (severity format : Option String) (handled : Bool) :
    Except LoggingFault Logging :=
  let name := severityName settings severity
  match Severity.byName.lookup name with
  | none => .error (.unknownSeverity name)
  | some severity =>
    if handled then .ok ⟨severity, formatOf settings format⟩ else .error .twoOutputs

end Logging
end FormFill
