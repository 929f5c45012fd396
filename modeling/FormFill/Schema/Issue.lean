namespace FormFill.Schema

/-- One step of the way to a faulty part of a document: a key or a position in a list. -/
inductive Place where
  | key (name : String)
  | index (position : Nat)
deriving DecidableEq, Repr

def Place.text : Place → String
  | .key name => name
  | .index position => toString position

/-- Why a part of a document is refused. -/
inductive Cause where
  | missing
  | unknownKey
  | notText
  | emptyText
  | notBool
  | boolUnread
  | notInt
  | intUnread
  | intFractional
  | intTooLarge
  | notFinite
  | negative
  | notAmong (fixed : Bool) (choices : List String)
  | unknownAction (tag : String) (choices : List String)
  | notDefinition
  | notObject (kind : String)
  | rejected (reason : String)
deriving DecidableEq, Repr

/-- Names in single quotes, the last two joined by "or". -/
def choiceText : List String → String
  | [] => ""
  | [one] => s!"'{one}'"
  | [one, last] => s!"'{one}' or '{last}'"
  | one :: rest => s!"'{one}', {choiceText rest}"

/-- Names in single quotes with commas between them. -/
def listText (names : List String) : String :=
  ", ".intercalate (names.map fun name => s!"'{name}'")

/-- The short name of a cause. -/
def Cause.code : Cause → String
  | .missing => "missing"
  | .unknownKey => "extra_forbidden"
  | .notText => "string_type"
  | .emptyText => "string_too_short"
  | .notBool => "bool_type"
  | .boolUnread => "bool_parsing"
  | .notInt => "int_type"
  | .intUnread => "int_parsing"
  | .intFractional => "int_from_float"
  | .intTooLarge => "int_parsing_size"
  | .notFinite => "finite_number"
  | .negative => "greater_than_equal"
  | .notAmong fixed _ => if fixed then "literal_error" else "enum"
  | .unknownAction .. => "union_tag_invalid"
  | .notDefinition => "model_attributes_type"
  | .notObject _ => "model_type"
  | .rejected _ => "value_error"

def Cause.message : Cause → String
  | .missing => "Field required"
  | .unknownKey => "Extra inputs are not permitted"
  | .notText => "Input should be a valid string"
  | .emptyText => "String should have at least 1 character"
  | .notBool => "Input should be a valid boolean"
  | .boolUnread => "Input should be a valid boolean, unable to interpret input"
  | .notInt => "Input should be a valid integer"
  | .intUnread => "Input should be a valid integer, unable to parse string as an integer"
  | .intFractional => "Input should be a valid integer, got a number with a fractional part"
  | .intTooLarge => "Unable to parse input string as an integer, exceeded maximum size"
  | .notFinite => "Input should be a finite number"
  | .negative => "Input should be greater than or equal to 0"
  | .notAmong _ choices => s!"Input should be {choiceText choices}"
  | .unknownAction tag choices =>
    s!"Input tag '{tag}' found using 'action' does not match any of the expected tags: {listText choices}"
  | .notDefinition => "Input should be a valid dictionary or object to extract fields from"
  | .notObject kind => s!"Input should be a valid dictionary or instance of {kind}"
  | .rejected reason => s!"Value error, {reason}"

/-- A cause and the place of the part that it refuses. -/
structure Issue where
  cause : Cause
  place : List Place
deriving DecidableEq, Repr

def Issue.under (step : Place) (issue : Issue) : Issue :=
  { issue with place := step :: issue.place }

end FormFill.Schema
