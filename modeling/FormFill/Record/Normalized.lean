import FormFill.Record.Rendering
import FormFill.Text.Case

namespace FormFill.Record

def isPlainLetterOrDigit (c : Char) : Bool :=
  c.isLower || c.isDigit

/-- A text in lower case with only its ASCII letters and digits left. -/
def normalized (s : List Char) : List Char :=
  (Text.lower s).filter isPlainLetterOrDigit

def normalizedValue (value : Json) : List Char :=
  normalized (scalarText value)

end FormFill.Record
