/-!
Finite binary floating-point numbers of 64 bits, held exactly.

A double is a sign, a whole mantissa below 2^53 = 9007199254740992 and an exponent of two. Its proof
field says that it is in the one form that the 64 bits can hold: the mantissa is at least
2^52 = 4503599627370496, or the exponent is the least one.
-/

namespace DesktopAgent

def Double.leastExponent : Int := -1074

def Double.greatestExponent : Int := 971

/-- A finite double: `mantissa * 2 ^ exponent`, negated when `negative`. The two zeros differ in
their sign. -/
structure Double where
  negative : Bool
  mantissa : Nat
  exponent : Int
  canonical : mantissa < 9007199254740992 ∧ Double.leastExponent ≤ exponent ∧
    exponent ≤ Double.greatestExponent ∧
    (4503599627370496 ≤ mantissa ∨ exponent = Double.leastExponent)
deriving DecidableEq, Repr

namespace Double

/-- The double with these parts, when they are in canonical form. -/
def ofParts? (negative : Bool) (mantissa : Nat) (exponent : Int) : Option Double :=
  if canonical : mantissa < 9007199254740992 ∧ leastExponent ≤ exponent ∧
      exponent ≤ greatestExponent ∧ (4503599627370496 ≤ mantissa ∨ exponent = leastExponent) then
    some ⟨negative, mantissa, exponent, canonical⟩
  else none

def zero (negative : Bool) : Double :=
  ⟨negative, 0, leastExponent, by decide⟩

def neg (d : Double) : Double := { d with negative := !d.negative }

def isZero (d : Double) : Bool := d.mantissa == 0

/-- The numerator of the value without its sign. -/
def numerator (d : Double) : Nat := d.mantissa * Nat.pow 2 d.exponent.toNat

/-- The denominator of the value, a power of two. -/
def denominator (d : Double) : Nat := Nat.pow 2 (-d.exponent).toNat

/-- The value without its fraction, rounded toward zero. -/
def truncate (d : Double) : Int :=
  let whole : Int := ((d.numerator / d.denominator : Nat) : Int)
  if d.negative then -whole else whole

end Double

end DesktopAgent
