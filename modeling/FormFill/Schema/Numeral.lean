import FormFill.Number.Numeral
import FormFill.Text.Blank

/-!
Whole numbers written in texts. Blanks around the number, a fraction of zeros and single underscores
between its digits are allowed. Zeros in front belong to numbers without a minus sign only, and any
underscores among them go with them.
-/
namespace FormFill.Schema.Numeral

/-- Without the zeros in front of a number and the underscores among them. Where no other digit
    follows, the last of them stays. -/
def dropZeros (s : List Char) : List Char :=
  if s.head? = some '0' then
    match s.span fun c => c == '0' || c == '_' with
    | (zeros, []) => zeros.getLast?.toList
    | (zeros, '.' :: fraction) => zeros.getLast?.toList ++ '.' :: fraction
    | (_, rest) => rest
  else s

/-- Without a point that zeros follow; there is no other point in a whole number. -/
def dropFraction? (s : List Char) : Option (List Char) :=
  match Text.splitOnChar '.' s with
  | [whole] => some whole
  | [whole, fraction] => if fraction ≠ [] ∧ fraction.all (· == '0') then some whole else none
  | _ => none

def unsigned? (s : List Char) : Option (List Char) :=
  (dropFraction? (dropZeros s)).bind (Text.groupedDigits? Char.isDigit)

/-- The digits of a number that follow its minus sign: an underscore may come first, and a zero only
    where it is the one digit. -/
def negated? (s : List Char) : Option (List Char) :=
  (dropFraction? s).bind fun whole =>
    let digits := if whole.head? = some '_' then whole.drop 1 else whole
    if digits.head? = some '0' ∧ digits ≠ ['0'] then none
    else Text.groupedDigits? Char.isDigit digits

/-- Whether the number that a text writes has a minus sign, and its digits. -/
def parts? (text : List Char) : Option (Bool × List Char) :=
  match Text.trimWhile Text.isWhite text with
  | '-' :: rest => (negated? rest).map (true, ·)
  | '+' :: rest => (unsigned? rest).map (false, ·)
  | s => (unsigned? s).map (false, ·)

/-- What a text begins with that looks like a number: a minus sign, and digits of which the first is not zero. -/
def beginning (text : List Char) : Bool × List Char :=
  let (negative, rest) :=
    match Text.trimWhile Text.isWhite text with
    | '-' :: rest => (true, rest)
    | s => (false, s)
  (negative, if rest.head? = some '0' then [] else rest.takeWhile Char.isDigit)

/-- Whether a number has too many digits; a minus sign counts as one. -/
def isOverlong (parts : Bool × List Char) : Bool :=
  longestNumeral < parts.2.length + if parts.1 then 1 else 0

/-- Why a text gives no whole number. -/
inductive Flaw where
  | overlong
  | unread

/-- The whole number that a text writes. One that begins with too many digits is not read on. -/
def read (text : List Char) : Except Flaw Int :=
  if isOverlong (beginning text) then .error .overlong
  else
    match parts? text with
    | none => .error .unread
    | some (negative, digits) =>
      if isOverlong (negative, digits) then .error .overlong
      else .ok (Text.withSign negative (Text.ofDigits digits))

end FormFill.Schema.Numeral
