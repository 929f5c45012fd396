import FormFill.Number.Text
import FormFill.Text.Digit

namespace FormFill

/-- The most digits with which a whole number is read from a text or shown as one. -/
def longestNumeral : Nat := 4300

/-- Why a whole number cannot be read or shown: it has too many digits. -/
inductive NumeralFault where
  | unreadable (digits : Nat)
  | unshowable
deriving DecidableEq, Repr

def NumeralFault.message (fault : NumeralFault) : String :=
  let value :=
    match fault with
    | .unreadable digits => s!": value has {digits} digits"
    | .unshowable => ""
  s!"Exceeds the limit ({longestNumeral} digits) for integer string conversion{value}; " ++
    "use sys.set_int_max_str_digits() to increase the limit"

/-- The number that decimal digits write; zeros in front count among the digits. -/
def readDigits (digits : List Char) : Except NumeralFault Nat :=
  if longestNumeral < digits.length then .error (.unreadable digits.length) else .ok (Text.ofDigits digits)

def isShowableInt (n : Int) : Bool :=
  (Nat.toDigits 10 n.natAbs).length ≤ longestNumeral

def showInt (n : Int) : Except NumeralFault (List Char) :=
  if isShowableInt n then .ok (intText n) else .error .unshowable

end FormFill
