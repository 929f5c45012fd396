import FormFill.Json.Text
import FormFill.Record.Path
import FormFill.Text.Blank

namespace FormFill.Record

/-- A single value as it is typed into a form: null is empty and whole numbers have no fraction. -/
def scalarText : Json → List Char
  | .null => []
  | .bool value => Json.wordText value
  | .float value =>
    match value.toInt? with
    | some whole => intText whole
    | none => value.text Double.plainSpelling
  | other => other.plain

/-- One entry of a list; an object stands for its platform and its reason. -/
def itemText : Json → List Char
  | .obj members =>
    let platform := scalarText ((members.lookup "platform").getD .null)
    let reason := scalarText ((members.lookup "reason").getD .null)
    if platform ≠ [] ∧ reason ≠ [] then platform ++ [':', ' '] ++ reason
    else if platform ≠ [] then platform else reason
  | other => scalarText other

/-- A value as it is typed into a form: the entries of a list on lines of their own, an object as
    JSON. -/
def textOf : Json → List Char
  | .arr items => Text.joinWith ['\n'] (items.map itemText)
  | .obj members => (Json.obj members).compact
  | other => scalarText other

/-- Whether the whole numbers can be shown that the text of a list entry takes from it. -/
def itemIsShowable : Json → Bool
  | .obj members =>
    ((members.lookup "platform").getD .null).isShowable && ((members.lookup "reason").getD .null).isShowable
  | other => other.isShowable

/-- Whether the whole numbers can be shown that the text of a value takes from it. -/
def isShowable : Json → Bool
  | .arr items => items.all itemIsShowable
  | other => other.isShowable

/-- Why the text of a value cannot be given, if that is so. -/
def overlong? (value : Json) : Option NumeralFault :=
  if isShowable value then none else some .unshowable

/-- The text of the value that a source selects. -/
def selectText (record : Json) (source : Option String) : Except NumeralFault (List Char) := do
  let value ← select record source
  match overlong? value with
  | none => .ok (textOf value)
  | some fault => .error fault

def isSeparator (c : Char) : Bool :=
  c == ',' || c == '\n'

def isNull : Json → Bool
  | .null => true
  | _ => false

/-- The entries of a list, or the pieces between commas and line ends, before trimming. -/
def rawEntries : Json → List (List Char)
  | .null => []
  | .arr items => (items.filter (!isNull ·)).map itemText
  | other => Text.splitAtAny isSeparator (scalarText other)

/-- The entries of a value without surrounding blanks, the blank ones left out. -/
def entries (value : Json) : List (List Char) :=
  ((rawEntries value).map Text.strip).filter (· ≠ [])

/-- The entries of a value in one line. -/
def commaJoined (value : Json) : List Char :=
  Text.joinWith [',', ' '] (entries value)

end FormFill.Record
