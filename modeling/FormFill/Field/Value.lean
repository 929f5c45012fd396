import FormFill.Field
import FormFill.Record.Rendering
import FormFill.Record.Size

namespace FormFill.Field

/-- The value that the definition selects from a record, null where the selection fails. -/
def rawValue (field : Field) (record : Json) : Json :=
  (Record.select record field.value).toOption.getD .null

/-- Why the value cannot be selected or shown, if that is so. -/
def overlong? (field : Field) (record : Json) : Option NumeralFault :=
  match Record.select record field.value with
  | .error fault => some fault
  | .ok value => Record.overlong? value

/-- The text of the selected value after the transform. -/
def valueText (field : Field) (record : Json) : String :=
  let value := field.rawValue record
  String.ofList <|
    match field.transform with
    | .none => Record.textOf value
    | .usSize => Record.usSize (Record.textOf value)
    | .commaJoin => Record.commaJoined value

end FormFill.Field
