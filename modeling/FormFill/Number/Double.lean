namespace FormFill

/-- A double-precision number: a signed mantissa times a power of two, an infinity, or not a number. -/
inductive Double where
  | finite (negative : Bool) (mantissa : Nat) (exponent : Int)
  | infinite (negative : Bool)
  | nan
deriving DecidableEq, Repr, Inhabited

namespace Double

/-- The quotient rounded to the nearest whole number; a half goes to the even neighbour. -/
def roundDiv (numerator denominator : Nat) : Nat :=
  let quotient := numerator / denominator
  let rest := 2 * (numerator % denominator)
  if rest < denominator then quotient
  else if denominator < rest then quotient + 1
  else quotient + quotient % 2

/-- The exponent of the last of 53 significant bits of a positive quotient, at least `-1074`. -/
def lastBit (numerator denominator : Nat) : Int :=
  let above := numerator.log2
  let below := denominator.log2
  let reached :=
    if below ≤ above then denominator <<< (above - below) ≤ numerator
    else denominator ≤ numerator <<< (below - above)
  let leading := (above : Int) - below - if reached then 0 else 1
  max (leading - 52) (-1074)

/-- The double nearest to a quotient of natural numbers, the even mantissa on a tie. -/
def ofRatio (negative : Bool) (numerator denominator : Nat) : Double :=
  if numerator = 0 then .finite negative 0 0
  else
    let exponent := lastBit numerator denominator
    let mantissa :=
      if exponent ≤ 0 then roundDiv (numerator <<< (-exponent).toNat) denominator
      else roundDiv numerator (denominator <<< exponent.toNat)
    let (mantissa, exponent) :=
      if mantissa = 1 <<< 53 then (1 <<< 52, exponent + 1) else (mantissa, exponent)
    if mantissa = 0 then .finite negative 0 0
    else if 971 < exponent then .infinite negative
    else .finite negative mantissa exponent

/-- The double nearest to `digits * 10 ^ scale`. Values far outside the range of doubles are
    settled by their number of digits. -/
def ofDecimal (negative : Bool) (digits : Nat) (scale : Int) : Double :=
  let size := ((Nat.toDigits 10 digits).length : Int) + scale
  if digits = 0 then .finite negative 0 0
  else if 310 < size then .infinite negative
  else if size < -330 then .finite negative 0 0
  else if 0 ≤ scale then ofRatio negative (digits * Nat.pow 10 scale.toNat) 1
  else ofRatio negative digits (Nat.pow 10 (-scale).toNat)

def ofInt (n : Int) : Double :=
  ofRatio (n < 0) n.natAbs 1

/-- The whole number that a double is, if it is one. -/
def toInt? : Double → Option Int
  | .finite negative mantissa exponent =>
    let size : Option Nat :=
      if 0 ≤ exponent then some (mantissa <<< exponent.toNat)
      else
        let unit := 1 <<< (-exponent).toNat
        if mantissa % unit = 0 then some (mantissa / unit) else none
    size.map fun size => if negative then -(size : Int) else size
  | .infinite _ | .nan => none

/-- The double nearest to `coefficient * 2 ^ exponent`; a zero takes the sign given. -/
def ofScaled (zeroSign : Bool) (coefficient : Int) (exponent : Int) : Double :=
  if coefficient = 0 then .finite zeroSign 0 0
  else if 0 ≤ exponent then ofRatio (coefficient < 0) (coefficient.natAbs <<< exponent.toNat) 1
  else ofRatio (coefficient < 0) coefficient.natAbs (1 <<< (-exponent).toNat)

/-- The sum, rounded once; a zero sum is negative only if both summands are. -/
def add : Double → Double → Double
  | .finite s m e, .finite t n f =>
    let low := min e f
    let left : Int := m <<< (e - low).toNat
    let right : Int := n <<< (f - low).toNat
    ofScaled (s && t) ((if s then -left else left) + (if t then -right else right)) low
  | .infinite s, .infinite t => if s = t then .infinite s else .nan
  | .nan, _ | _, .nan => .nan
  | .infinite s, .finite .. | .finite .., .infinite s => .infinite s

/-- Half of a double, rounded once. -/
def half : Double → Double
  | .finite negative mantissa exponent =>
    ofScaled negative (if negative then -(mantissa : Int) else mantissa) (exponent - 1)
  | .infinite negative => .infinite negative
  | .nan => .nan

end Double
end FormFill
