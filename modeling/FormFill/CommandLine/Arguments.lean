import FormFill.Number.Numeral
import FormFill.Text.Blank

namespace FormFill.CommandLine

/-- What is wrong with the arguments. -/
inductive Misuse where
  | noCommand
  | unknownCommand (name : String)
  | unknownOption (name : String)
  | missingValue (option : String)
  | needlessValue (option : String)
  | notNumber (option value : String)
  | extraArgument (argument : String)
deriving DecidableEq, Repr

/-- What may follow the name of an option. -/
inductive Operand where
  | none
  | value
deriving DecidableEq, Repr

/-- Arguments sorted into options, in their order and each with its value, and all others. -/
structure Arguments where
  options : List (String × String)
  others : List String
deriving DecidableEq, Repr

namespace Arguments

def looksLikeOption (argument : String) : Bool :=
  argument.startsWith "-" && argument ≠ "-"

/-- An option and the value attached to it after an equals sign. -/
def splitAttached (argument : String) : String × Option String :=
  match argument.toList.span (· != '=') with
  | (name, _ :: value) => (String.ofList name, some (String.ofList value))
  | _ => (argument, none)

def withOption (name value : String) (arguments : Arguments) : Arguments :=
  { arguments with options := (name, value) :: arguments.options }

def withOther (argument : String) (arguments : Arguments) : Arguments :=
  { arguments with others := argument :: arguments.others }

/-- Sorts arguments. An option with an operand takes what comes next, whatever that is. After two
    dashes there are no more options, nor, unless they are `mixed` with others, after the first
    argument that is none. -/
def sort (operands : List (String × Operand)) (mixed : Bool) :
    List String → Except Misuse Arguments
  | [] => .ok ⟨[], []⟩
  | argument :: rest =>
    if argument = "--" then .ok ⟨[], rest⟩
    else if looksLikeOption argument then
      let (name, attached) := splitAttached argument
      match operands.lookup name, attached with
      | none, _ => .error (.unknownOption name)
      | some .none, some _ => .error (.needlessValue name)
      | some .none, none => (sort operands mixed rest).map (withOption name "")
      | some .value, some value => (sort operands mixed rest).map (withOption name value)
      | some .value, none =>
        match rest with
        | [] => .error (.missingValue name)
        | value :: rest => (sort operands mixed rest).map (withOption name value)
    else if mixed then (sort operands mixed rest).map (withOther argument)
    else .ok ⟨[], argument :: rest⟩

def has (arguments : Arguments) (name : String) : Bool :=
  (arguments.options.lookup name).isSome

/-- The value of an option that is given; the last one counts. -/
def value? (arguments : Arguments) (name : String) : Option String :=
  arguments.options.reverse.lookup name

/-- A whole number: blanks around it, a sign, and not too many decimal digits of any script in groups. -/
def wholeNumber? (text : String) : Option Int :=
  let (negative, body) := Text.splitSign (Text.trimWhile Text.isWhite text.toList)
  match Text.groupedDigits? Text.isDigit body with
  | some digits => (readDigits digits).toOption.map (Text.withSign negative ·)
  | none => none

def number? (arguments : Arguments) (name : String) : Except Misuse (Option Int) :=
  match arguments.value? name with
  | none => .ok none
  | some text =>
    match wholeNumber? text with
    | some n => .ok (some n)
    | none => .error (.notNumber name text)

end Arguments
end FormFill.CommandLine
