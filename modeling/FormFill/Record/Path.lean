import FormFill.Json
import FormFill.Number.Numeral
import FormFill.Text.Split

namespace FormFill.Record

/-- Where a value comes from: nowhere, from the definition itself, or from a place in the record. -/
inductive Source where
  | absent
  | literal (text : List Char)
  | path (segments : List (List Char))
deriving DecidableEq, Repr

/-- The mark that begins a literal value. -/
def literalMark : Char := '='

/-- An empty text names no source, a marked one is a literal, any other a dotted path. -/
def Source.ofText? : Option String → Source
  | none => .absent
  | some text =>
    match text.toList with
    | [] => .absent
    | c :: rest =>
      if c = literalMark then .literal rest else .path (Text.splitOnChar '.' (c :: rest))

/-- A list position: one or more ASCII digits, but not too many. -/
def position? (segment : List Char) : Except NumeralFault (Option Nat) :=
  if segment ≠ [] ∧ segment.all Char.isDigit then some <$> readDigits segment else .ok none

/-- The value one step inside another, null if there is none. -/
def child (value : Json) (segment : List Char) : Except NumeralFault Json :=
  match value with
  | .obj members => .ok ((members.lookup (String.ofList segment)).getD .null)
  | .arr items => do return ((← position? segment).bind (items[·]?)).getD .null
  | _ => .ok .null

def descend (value : Json) (segments : List (List Char)) : Except NumeralFault Json :=
  segments.foldlM child value

def Source.value (record : Json) : Source → Except NumeralFault Json
  | .absent => .ok .null
  | .literal text => .ok (.str (String.ofList text))
  | .path segments => descend record segments

/-- The value that a source text selects from a record, null if there is none. -/
def select (record : Json) (source : Option String) : Except NumeralFault Json :=
  (Source.ofText? source).value record

end FormFill.Record
