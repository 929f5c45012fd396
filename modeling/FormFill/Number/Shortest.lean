import FormFill.Number.Double

namespace FormFill.Double

/-- A positive decimal `digits * 10 ^ scale`. -/
structure Decimal where
  digits : Nat
  scale : Int
deriving DecidableEq, Repr

def digitCount (n : Nat) : Nat :=
  (Nat.toDigits 10 n).length

/-- Drops the zeros at the end of the digits. -/
def Decimal.trim : Nat → Decimal → Decimal
  | 0, d => d
  | steps + 1, d =>
    if d.digits % 10 = 0 then Decimal.trim steps ⟨d.digits / 10, d.scale + 1⟩ else d

/-- The real numbers that round to a double, as numerators over one denominator, with the double
    itself between the ends. The ends belong to the interval when the mantissa is even. -/
structure Interval where
  low : Nat
  value : Nat
  high : Nat
  denominator : Nat
  closed : Bool

/-- Below a power of two the neighbour is half as far as above it. -/
def interval (mantissa : Nat) (exponent : Int) : Interval :=
  let below := if mantissa = 1 <<< 52 ∧ -1074 < exponent then 1 else 2
  let quarter := exponent - 2
  let unit := 1 <<< quarter.toNat
  ⟨(4 * mantissa - below) * unit, 4 * mantissa * unit, (4 * mantissa + 2) * unit,
    1 <<< (-quarter).toNat, mantissa % 2 = 0⟩

/-- The decimal exponent of the leading digit of the value. -/
def Interval.leading (i : Interval) : Int :=
  (digitCount (i.value * Nat.pow 10 340 / i.denominator) : Int) - 341

/-- The multiple of `10 ^ scale` nearest to the value that lies in the interval, if there is one; of
    two equally near the even one. -/
def Interval.onGrid? (i : Interval) (scale : Int) : Option Decimal :=
  let up := Nat.pow 10 (-scale).toNat
  let step := i.denominator * Nat.pow 10 scale.toNat
  let value := i.value * up
  let floor := value / step
  let inside (point : Nat) : Bool :=
    if i.closed then i.low * up ≤ point * step ∧ point * step ≤ i.high * up
    else i.low * up < point * step ∧ point * step < i.high * up
  let upper :=
    let rest := 2 * (value % step)
    step < rest || (rest = step && floor % 2 = 1)
  match inside floor, inside (floor + 1) with
  | true, true => some ⟨if upper then floor + 1 else floor, scale⟩
  | true, false => some ⟨floor, scale⟩
  | false, true => some ⟨floor + 1, scale⟩
  | false, false => none

/-- The decimal with the fewest digits that reads back as the double, nearest to it among those. -/
def shortest (mantissa : Nat) (exponent : Int) : Decimal :=
  let i := interval mantissa exponent
  let leading := i.leading
  let found := (List.range 17).findSome? fun (n : Nat) => i.onGrid? (leading - n)
  (found.getD ⟨i.value, 0⟩).trim 20

end FormFill.Double
