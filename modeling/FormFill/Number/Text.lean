import FormFill.Number.Shortest

namespace FormFill

/-- Digits in base ten, with a minus sign for negative numbers. -/
def intText (n : Int) : List Char :=
  if n < 0 then '-' :: Nat.toDigits 10 n.natAbs else Nat.toDigits 10 n.natAbs

namespace Double

/-- The spellings of the doubles that are not numbers. -/
structure Spelling where
  infinity : String
  notANumber : String

def plainSpelling : Spelling := ⟨"inf", "nan"⟩

def jsonSpelling : Spelling := ⟨"Infinity", "NaN"⟩

/-- Exponents of ten have a sign and at least two digits. -/
def exponentText (n : Int) : List Char :=
  let digits := Nat.toDigits 10 n.natAbs
  'e' :: (if n < 0 then '-' else '+') :: (if digits.length < 2 then '0' :: digits else digits)

/-- Positional from `1e-4` up to below `1e16`, always with a fractional part, else scientific. -/
def Decimal.text (d : Decimal) : List Char :=
  let digits := Nat.toDigits 10 d.digits
  let leading := d.scale + digits.length - 1
  if leading < -4 ∨ 16 ≤ leading then
    match digits with
    | [] => []
    | [first] => first :: exponentText leading
    | first :: rest => first :: '.' :: rest ++ exponentText leading
  else if leading < 0 then
    ['0', '.'] ++ List.replicate (-leading - 1).toNat '0' ++ digits
  else if 0 ≤ d.scale then digits ++ List.replicate d.scale.toNat '0' ++ ['.', '0']
  else
    let whole := (leading + 1).toNat
    digits.take whole ++ '.' :: digits.drop whole

/-- The shortest text that reads back as the same double. -/
def text (spelling : Spelling) : Double → List Char
  | .finite negative mantissa exponent =>
    let size := if mantissa = 0 then ['0', '.', '0'] else (shortest mantissa exponent).text
    if negative then '-' :: size else size
  | .infinite negative =>
    if negative then '-' :: spelling.infinity.toList else spelling.infinity.toList
  | .nan => spelling.notANumber.toList

end Double
end FormFill
