import FormFill.Action.EachTag
import FormFill.Action.EachText
import FormFill.Action.Input
import FormFill.Action.Press

namespace FormFill.Executor

/-- Performs the interaction of a field with the value at hand. -/
def interact (timing : Timing) (field : Field) (record : Json) (value : String) : Act Outcome :=
  match field.action with
  | .fill settings => Action.runFill timing field settings value
  | .type settings => Action.runType timing field settings value
  | .click settings => Action.runClick timing field settings
  | .check settings => Action.runCheck timing field settings
  | .select => Action.runSelect timing field value
  | .clickEachText settings => Action.runEachText timing field settings record
  | .typeEachTag settings => Action.runEachTag timing field settings record value

/-- Performs the interaction; an error of the browser makes the field a failed one. -/
def attempt (timing : Timing) (field : Field) (record : Json) (value : String) : Act Outcome := do
  if field.scrollPageBottom then let _ ← Timing.scrollPageBottom
  Act.catchBrowser (interact timing field record value) fun error => do
    Action.log .error "Field action failed"
      (fieldContext field.displayName field.action.kind.name [("error", .str error.text)])
    return .failed field error.text

/-- Performs the interaction of a field with an identifier as its value. The store has advanced by
    then, so the record is to follow whatever becomes of the field. -/
def executeIdentified (executor : Executor) (field : Field) (record : Json) : Act Outcome := do
  match executor.identifiers with
  | none => Action.skip field "no identifier source configured" .none
  | some source =>
    let assigned ← source.next record
    if assigned.value = "" then Action.skip field "no identifier available" .none
    else
      let outcome ← attempt executor.timing field record assigned.value
      return { outcome with patch := assigned.patch }

/-- Deals with one field of a form. -/
def execute (executor : Executor) (field : Field) (record : Json) : Act Outcome := do
  if field.isInert then
    Action.log .info "Skipping inert field"
      [("field", .str field.displayName),
       ("reason", .str "no selector/label/placeholder/text and no literal value")]
    return .skipped field Action.noLocator .none
  else
    Act.failOn ((field.overlong? record).map .numeral)
    if field.autoIdentifier then executor.executeIdentified field record
    else attempt executor.timing field record (field.valueText record)

end FormFill.Executor
