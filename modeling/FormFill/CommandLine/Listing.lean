import FormFill.Browser.World
import FormFill.Form

namespace FormFill.CommandLine

def statusColor : Status → String
  | .applied => "green"
  | .skipped => "yellow"
  | .failed => "red"

def statusCell (status : Status) : String :=
  let color := statusColor status
  s!"[{color}]{status.name}[/{color}]"

def outcomeRow (outcome : Outcome) : List String :=
  [outcome.field, outcome.action.name, statusCell outcome.status, outcome.reason.getD ""]

def outcomeTable (report : Report) : Printed :=
  .table s!"formpilot run: {report.url}" ["Field", "Action", "Status", "Reason"]
    (report.outcomes.map outcomeRow)

def countLine (report : Report) : String :=
  let mark := if report.submitted then " - submitted" else ""
  let applied := report.count .applied
  let skipped := report.count .skipped
  let failed := report.count .failed
  s!"✅ {applied} applied, ⚠️  {skipped} skipped, ❌ {failed} failed{mark}"

def printReport (report : Report) : Act Unit := do
  Act.print (outcomeTable report)
  Act.print (.line (countLine report))

def locatorCell (field : Field) : String :=
  match field.strategy with
  | some (kind, query) => s!"{kind.name}={query}"
  | none => "-"

def valueCell (field : Field) : String :=
  if field.autoIdentifier then "auto identifier" else field.value.getD ""

def fieldRow (field : Field) (position : Nat) : List String :=
  [toString (position + 1), field.displayName, field.action.kind.name, locatorCell field,
   valueCell field]

def fieldTable (form : Form) : Printed :=
  .table s!"Schema for {form.url}" ["#", "Name", "Action", "Locator", "Value"]
    (form.allFields.zipIdx.map fun (field, position) => fieldRow field position)

/-- Lists the fields and the steps of a form, and counts the fields. -/
def printForm (form : Form) : Act Unit := do
  Act.print (fieldTable form)
  Act.print (.line s!"✅ {form.fields.length} field(s) valid")

end FormFill.CommandLine
