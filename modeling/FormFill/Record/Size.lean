import FormFill.Text.Blank
import FormFill.Text.Digit
import FormFill.Text.Word

namespace FormFill.Record

/-- The longest decimal number, without a sign, that a text begins with. -/
def number? (s : List Char) : Option (List Char) :=
  match s.takeWhile Text.isDigit with
  | [] => none
  | whole =>
    match s.dropWhile Text.isDigit with
    | '.' :: rest =>
      match rest.takeWhile Text.isDigit with
      | [] => some whole
      | fraction => some (whole ++ '.' :: fraction)
    | _ => some whole

def isU (c : Char) : Bool :=
  c == 'u' || c == 'U'

/-- The long s is a lower case form of S. -/
def isS (c : Char) : Bool :=
  c == 's' || c == 'S' || c == 'ſ'

/-- The number behind the letters US that a text begins with. -/
def usNumber? : List Char → Option (List Char)
  | u :: s :: rest =>
    if isU u && isS s then number? (rest.dropWhile Text.isBlank) else none
  | _ => none

/-- The number behind the first US that begins a word and has one. -/
def usSize? (insideWord : Bool) : List Char → Option (List Char)
  | [] => none
  | c :: rest =>
    (if insideWord then none else usNumber? (c :: rest)).or (usSize? (Text.isWord c) rest)

def firstNumber? : List Char → Option (List Char)
  | [] => none
  | c :: rest => (number? (c :: rest)).or (firstNumber? rest)

/-- The US size in a text, else its first number, else the text itself. -/
def usSize (s : List Char) : List Char :=
  ((usSize? false s).or (firstNumber? s)).getD s

end FormFill.Record
