import FormFill.Settings.Assignment
import FormFill.Text.Case

namespace FormFill

/-- Named variables in order. One may be named without having a value. -/
structure Variables where
  entries : List (String × Option (List Char))
deriving DecidableEq, Repr

namespace Variables

def empty : Variables := ⟨[]⟩

def ofEnvironment (environment : List (String × String)) : Variables :=
  ⟨environment.map fun (name, value) => (name, some value.toList)⟩

def get? (known : Variables) (name : String) : Option (Option (List Char)) :=
  known.entries.lookup name

def setIn (name : String) (value : Option (List Char)) :
    List (String × Option (List Char)) → List (String × Option (List Char))
  | [] => [(name, value)]
  | entry :: entries =>
    if entry.1 = name then (name, value) :: entries else entry :: setIn name value entries

/-- Sets a variable: in the place of one with the same name, else at the end. -/
def set (known : Variables) (name : String) (value : Option (List Char)) : Variables :=
  ⟨setIn name value known.entries⟩

/-- A reference at the start of a text: the name, what stands in for a variable that does not
    exist, and the text after it. -/
def reference? : List Char → Option (List Char × List Char × List Char)
  | '$' :: '{' :: s =>
    let (name, after) := s.span fun c => c != '}' && c != ':'
    match after with
    | '}' :: rest => some (name, [], rest)
    | ':' :: '-' :: after =>
      match after.span (· != '}') with
      | (fallback, _ :: rest) => some (name, fallback, rest)
      | _ => none
    | _ => none
  | _ => none

/-- A text with at most a number of characters or references replaced by what they stand for. -/
def expandUpTo (lookup : String → Option (Option (List Char))) : Nat → List Char → List Char
  | 0, s => s
  | limit + 1, s =>
    match reference? s with
    | some (name, fallback, rest) =>
      let value :=
        match lookup (String.ofList name) with
        | some value => value.getD []
        | none => fallback
      value ++ expandUpTo lookup limit rest
    | none =>
      match s with
      | [] => []
      | c :: rest => c :: expandUpTo lookup limit rest

def expand (lookup : String → Option (Option (List Char))) (s : List Char) : List Char :=
  expandUpTo lookup s.length s

/-- The variables of a file. A value may refer to those set before it and to the environment. -/
def ofAssignments (environment : Variables) (assignments : List Assignment) : Variables :=
  assignments.foldl
    (fun known assignment =>
      let lookup (name : String) := (known.get? name).or (environment.get? name)
      known.set assignment.name (assignment.value.map (expand lookup)))
    empty

/-- The value under a name in lower case, however its case is written; the last one counts. -/
def valueOf (known : Variables) (name : String) : Option (List Char) :=
  ((known.entries.reverse.find? fun entry =>
    Text.lower entry.1.toList = name.toList).bind (·.2))

end Variables
end FormFill
