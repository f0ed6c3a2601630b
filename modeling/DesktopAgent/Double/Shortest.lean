import DesktopAgent.Double.Basic
import DesktopAgent.Text.Numeral

/-!
The shortest decimal text that reads back as a double.

The reals that round to a double form an interval, with its ends when the mantissa is even. Among
the decimal grids of one, two, … digits at the number's magnitude, the first with a point in that
interval gives the digits; of two points the nearer one is taken. Magnitudes from `10 ^ -5` up to
below `10 ^ 16` are written positionally with at least one place, others with an exponent.
-/

namespace DesktopAgent.Double

open DesktopAgent.Text

/-- The exponent of the greatest power of ten that is at most the positive ratio. -/
def magnitude (num den : Nat) : Int :=
  if den ≤ num then ((Numeral.ofNat (num / den)).length : Int) - 1
  else
    let places := (Numeral.ofNat (den / num)).length
    if den ≤ num * Nat.pow 10 (places - 1) then -((places - 1 : Nat) : Int) else -(places : Int)

/-- The ends of the interval that rounds to the number, and the number itself, in units of
`2 ^ (exponent - 2)`. Below a power of two the gap to the next double is half as wide. -/
structure Interval where
  low : Nat
  centre : Nat
  high : Nat
  closed : Bool

def interval (d : Double) : Interval where
  low :=
    if d.mantissa = 4503599627370496 ∧ leastExponent < d.exponent then 4 * d.mantissa - 1
    else 4 * d.mantissa - 2
  centre := 4 * d.mantissa
  high := 4 * d.mantissa + 2
  closed := d.mantissa % 2 = 0

/-- A decimal number: `digits * 10 ^ power`. -/
structure Decimal where
  digits : Nat
  power : Int
deriving DecidableEq, Repr

/-- The better grid point of the interval at a power of ten, if the grid has one there. Lengths are
compared after multiplying by the common denominator of the grid and of the interval's units. -/
def gridPoint? (d : Double) (power : Int) : Option Decimal :=
  let bounds := d.interval
  let unitNum := Nat.pow 2 (d.exponent - 2).toNat * Nat.pow 10 (-power).toNat
  let unitDen := Nat.pow 2 (2 - d.exponent).toNat * Nat.pow 10 power.toNat
  let low := bounds.low * unitNum
  let centre := bounds.centre * unitNum
  let high := bounds.high * unitNum
  let below := centre / unitDen
  let above := below + 1
  let inside (point : Nat) : Bool :=
    if bounds.closed then low ≤ point * unitDen && point * unitDen ≤ high
    else low < point * unitDen && point * unitDen < high
  match inside below, inside above with
  | true, true =>
      let toBelow := centre - below * unitDen
      let toAbove := above * unitDen - centre
      if toBelow < toAbove ∨ (toBelow = toAbove ∧ below % 2 = 0) then some ⟨below, power⟩
      else some ⟨above, power⟩
  | true, false => some ⟨below, power⟩
  | false, true => some ⟨above, power⟩
  | false, false => none

/-- The first hit among the grids of `count` digits, one digit more, and so on, at most 17. -/
def firstHit (d : Double) (magnitude : Int) (count : Nat) : Decimal :=
  match gridPoint? d (magnitude - ((count : Int) - 1)) with
  | some point => point
  | none => if count < 17 then firstHit d magnitude (count + 1) else ⟨0, 0⟩
termination_by 17 - count

/-- The shortest decimal that reads back as the number, which is not zero. -/
def shortest (d : Double) : Decimal :=
  firstHit d (magnitude d.numerator d.denominator) 1

/-- Which decimal magnitudes are written positionally. -/
structure Layout where
  leastPositional : Int
  greatestPositional : Int

/-- Numbers from `10 ^ -5` up to below `10 ^ 16` are written positionally. -/
def Layout.standard : Layout := ⟨-5, 15⟩

def significantDigits (point : Decimal) : List Char :=
  ((Numeral.ofNat point.digits).reverse.dropWhile (· == '0')).reverse

/-- Positional text of digits of which the first stands at `10 ^ magnitude`. -/
def positional (digits : List Char) (magnitude : Int) : List Char :=
  if magnitude < 0 then
    '0' :: '.' :: List.replicate ((-magnitude).toNat - 1) '0' ++ digits
  else
    let whole := magnitude.toNat + 1
    if digits.length ≤ whole then
      digits ++ List.replicate (whole - digits.length) '0' ++ ['.', '0']
    else digits.take whole ++ '.' :: digits.drop whole

/-- Text with an exponent, which always has its sign. -/
def scientific (digits : List Char) (magnitude : Int) : List Char :=
  let mantissa :=
    match digits with
    | first :: next :: rest => first :: '.' :: next :: rest
    | few => few
  let sign := if magnitude < 0 then '-' else '+'
  mantissa ++ 'e' :: sign :: Numeral.ofNat magnitude.natAbs

def render (d : Double) : List Char :=
  let sign := if d.negative then ['-'] else []
  if d.isZero then sign ++ ['0', '.', '0']
  else
    let point := shortest d
    let digits := significantDigits point
    let magnitude := point.power + ((Numeral.ofNat point.digits).length : Int) - 1
    if Layout.standard.leastPositional ≤ magnitude ∧
        magnitude ≤ Layout.standard.greatestPositional then
      sign ++ positional digits magnitude
    else sign ++ scientific digits magnitude

end DesktopAgent.Double
