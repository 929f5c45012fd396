import FormFill.Text.Blank

namespace FormFill

/-- A name in a file of variables, and what it is set to, if to anything. -/
structure Assignment where
  name : String
  value : Option (List Char)
deriving DecidableEq, Repr

namespace Assignment

/-- A blank that does not end its line. -/
def isGap (c : Char) : Bool :=
  Text.isBlank c && c != '\n'

def dropLine (s : List Char) : List Char :=
  (s.dropWhile (· != '\n')).drop 1

/-- Without the word `export` that may stand before a name. -/
def dropExport (s : List Char) : List Char :=
  let word := ['e', 'x', 'p', 'o', 'r', 't']
  let rest := s.drop word.length
  if word.isPrefixOf s ∧ (rest.head?.map isGap).getD false then rest.dropWhile isGap else s

/-- Text up to the quote that closes it, and what follows. A quote after a backslash closes only if
    no other does. -/
def untilQuote (quote : Char) (afterBackslash : Bool) :
    List Char → Option (List Char × List Char)
  | [] => none
  | c :: rest =>
    if c = quote ∧ !afterBackslash then some ([], rest)
    else
      match untilQuote quote (c == '\\') rest with
      | some (inside, after) => some (c :: inside, after)
      | none => if c = quote then some ([], rest) else none

def singleQuoteEscapes : List (Char × Char) :=
  [('\\', '\\'), ('\'', '\'')]

def doubleQuoteEscapes : List (Char × Char) :=
  [('\\', '\\'), ('\'', '\''), ('"', '"'), ('a', '\x07'), ('b', '\x08'), ('f', '\x0c'),
   ('n', '\n'), ('r', '\x0d'), ('t', '\t'), ('v', '\x0b')]

/-- Every known escape as the character that it stands for. -/
def unescape (escapes : List (Char × Char)) : List Char → List Char
  | '\\' :: c :: rest =>
    match escapes.lookup c with
    | some meant => meant :: unescape escapes rest
    | none => '\\' :: c :: unescape escapes rest
  | c :: rest => c :: unescape escapes rest
  | [] => []

/-- Text before a comment, which begins with a number sign after a blank. -/
def beforeComment (afterBlank : Bool) : List Char → List Char
  | [] => []
  | c :: rest =>
    if c = '#' ∧ afterBlank then [] else c :: beforeComment (Text.isBlank c) rest

def unquoted (line : List Char) : List Char :=
  ((beforeComment false line).reverse.dropWhile Text.isBlank).reverse

/-- The name at the start of a text and what follows it; a comment has no name. Where none can be
    read, the error is the text from there on. -/
def readName (s : List Char) : Except (List Char) (Option (List Char) × List Char) :=
  match s with
  | '#' :: _ => .ok (none, s)
  | '\'' :: rest =>
    match rest.span (· != '\'') with
    | (c :: name, _ :: after) => .ok (some (c :: name), after)
    | _ => .error s
  | _ =>
    match s.span fun c => c != '=' && c != '#' && !Text.isBlank c with
    | ([], _) => .error s
    | (name, after) => .ok (some name, after)

/-- The value at the start of a text and what follows it. -/
def readValue (s : List Char) : Except (List Char) (List Char × List Char) :=
  let readQuoted (quote : Char) (escapes : List (Char × Char)) (rest : List Char) :=
    match untilQuote quote false rest with
    | some (inside, after) => .ok (unescape escapes inside, after)
    | none => .error s
  match s with
  | '\'' :: rest => readQuoted '\'' singleQuoteEscapes rest
  | '"' :: rest => readQuoted '"' doubleQuoteEscapes rest
  | _ =>
    let (line, after) := s.span (· != '\n')
    .ok (unquoted line, after)

/-- What follows the end of a line on which nothing but a comment may be left. -/
def readEnd (s : List Char) : Except (List Char) (List Char) :=
  match s.dropWhile isGap with
  | [] => .ok []
  | '\n' :: rest => .ok rest
  | '#' :: rest => .ok (dropLine rest)
  | _ => .error s

/-- One assignment or comment, and what follows its line. -/
def readOne (s : List Char) : Except (List Char) (Option Assignment × List Char) := do
  let (name, s) ← readName (dropExport s)
  let (value, s) ←
    match s.dropWhile isGap with
    | '=' :: s => do
      let (value, s) ← readValue (s.dropWhile isGap)
      pure (some value, s)
    | s => pure (none, s)
  let s ← readEnd s
  return (name.map fun name => ⟨String.ofList name, value⟩, s)

/-- At most a number of assignments; a line that cannot be read is left out. -/
def readUpTo : Nat → List Char → List Assignment
  | 0, _ => []
  | limit + 1, s =>
    match s.dropWhile Text.isBlank with
    | [] => []
    | s =>
      match readOne s with
      | .ok (assignment, rest) => assignment.toList ++ readUpTo limit rest
      | .error rest => readUpTo limit (dropLine rest)

/-- A text without the byte order mark that it may begin with. -/
def dropMark : List Char → List Char
  | '\uFEFF' :: rest => rest
  | s => s

/-- All assignments of a file. Each takes up a character at least. -/
def readAll (s : List Char) : List Assignment :=
  readUpTo s.length (dropMark s)

end Assignment
end FormFill
