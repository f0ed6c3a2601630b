import DesktopAgent.Double.Basic

/-!
Rounding exact ratios to doubles, and the products and quotients of doubles.

`ofRatio?` gives the nearest double, of two equally near the one with the even mantissa, and nothing
when the ratio is too large. Products and quotients are the exact ones, rounded once.
-/

namespace DesktopAgent.Double

/-- The whole number nearest to a quotient; a half goes to the even neighbour. -/
def divideToEven (num den : Nat) : Nat :=
  let whole := num / den
  let twice := 2 * (num % den)
  if twice < den then whole
  else if den < twice then whole + 1
  else whole + whole % 2

/-- The ratio in units of `2 ^ exponent`, as a numerator and a denominator. -/
def inUnits (num den : Nat) (exponent : Int) : Nat × Nat :=
  (num * Nat.pow 2 (-exponent).toNat, den * Nat.pow 2 exponent.toNat)

/-- The exponent at which the ratio's mantissa has 53 bits, or the least exponent when that one is
below it. -/
def unitExponent (num den : Nat) : Int :=
  let estimate : Int := (num.log2 : Int) - (den.log2 : Int) - 53
  let (scaledNum, scaledDen) := inUnits num den estimate
  max leastExponent (if scaledNum / scaledDen < 9007199254740992 then estimate else estimate + 1)

/-- The double nearest to `num / den`, ties to the even mantissa; none when it is too large. The
denominator is not zero. -/
def ofRatio? (negative : Bool) (num den : Nat) : Option Double :=
  if num = 0 then some (zero negative)
  else
    let exponent := unitExponent num den
    let (scaledNum, scaledDen) := inUnits num den exponent
    let mantissa := divideToEven scaledNum scaledDen
    if mantissa = 9007199254740992 then ofParts? negative 4503599627370496 (exponent + 1)
    else ofParts? negative mantissa exponent

def ofNat? (n : Nat) : Option Double :=
  ofRatio? false n 1

def ofInt? (n : Int) : Option Double :=
  ofRatio? (n < 0) n.natAbs 1

def mul? (left right : Double) : Option Double :=
  ofRatio? (left.negative != right.negative) (left.numerator * right.numerator)
    (left.denominator * right.denominator)

def div? (left right : Double) : Option Double :=
  ofRatio? (left.negative != right.negative) (left.numerator * right.denominator)
    (left.denominator * right.numerator)

def tenTo? (power : Nat) : Option Double :=
  ofNat? (Nat.pow 10 power)

def greatestPower : Nat := 308

/-- The number times a power of ten, by one multiplication or division by the rounded power; a power
below `10 ^ -308` is divided out in steps. None when the result is too large. -/
def scale? (d : Double) (power : Int) : Option Double :=
  if d.isZero then some d
  else if 0 ≤ power then
    if power ≤ greatestPower then do mul? d (← tenTo? power.toNat) else none
  else if -(greatestPower : Int) ≤ power then do div? d (← tenTo? (-power).toNat)
  else do
    let smaller ← div? d (← tenTo? greatestPower)
    scale? smaller (power + greatestPower)
termination_by (-power).toNat
decreasing_by simp only [greatestPower] at *; omega

end DesktopAgent.Double
