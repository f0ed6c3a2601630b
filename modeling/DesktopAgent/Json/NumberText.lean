import DesktopAgent.Json.Basic
import DesktopAgent.Double.Rounding
import DesktopAgent.Text.Numeral

/-!
Reading the numeral of a JSON number.

A numeral without a fraction and an exponent that fits 64 bits is an integer; `-0` and every other
numeral is a double. A double keeps a significand of 64 bits: it is rounded first and then scaled by
one power of ten, so the last bit may differ from that of the nearest double.
-/

namespace DesktopAgent.Json

open DesktopAgent.Text

/-- The parts of a numeral: its sign, its digits before and after the point, and its exponent. -/
structure NumberText where
  negative : Bool
  whole : List Char
  fraction : List Char
  exponent : Int
  isInteger : Bool
deriving DecidableEq, Repr

namespace NumberText

/-- Reads the exponent that ends a numeral: an optional sign and at least one digit. -/
def readExponent? : List Char → Option Int
  | '-' :: digits => (Numeral.toNat? digits).map fun n => -(n : Int)
  | '+' :: digits => (Numeral.toNat? digits).map fun n => (n : Int)
  | digits => (Numeral.toNat? digits).map fun n => (n : Int)

def readTail? (negative : Bool) (whole fraction : List Char) (isInteger : Bool) :
    List Char → Option NumberText
  | [] => some ⟨negative, whole, fraction, 0, isInteger⟩
  | c :: rest =>
      if c = 'e' ∨ c = 'E' then
        (readExponent? rest).map fun exponent => ⟨negative, whole, fraction, exponent, false⟩
      else none

/-- Reads a numeral without its sign. A whole part of several digits does not begin with zero, and a
point has digits on both sides. -/
def readUnsigned? (negative : Bool) (text : List Char) : Option NumberText :=
  let whole := text.takeWhile Char.isDigit
  let rest := text.dropWhile Char.isDigit
  if whole.isEmpty || (whole.head? == some '0' && 1 < whole.length) then none
  else
    match rest with
    | '.' :: afterPoint =>
        let fraction := afterPoint.takeWhile Char.isDigit
        if fraction.isEmpty then none
        else readTail? negative whole fraction false (afterPoint.dropWhile Char.isDigit)
    | _ => readTail? negative whole [] true rest

def read? : List Char → Option NumberText
  | '-' :: text => readUnsigned? true text
  | text => readUnsigned? false text

/-- The digits kept so far and how many were left out. -/
structure Significand where
  kept : Nat
  dropped : Nat
deriving DecidableEq, Repr

/-- Takes digits as long as the number stays below 2^64; the first digit that does not fit and all
after it are left out. -/
def takeDigits (kept : Nat) : List Char → Significand
  | [] => ⟨kept, 0⟩
  | c :: rest =>
      let longer := 10 * kept + Numeral.digitValue c
      if longer < 18446744073709551616 then takeDigits longer rest else ⟨kept, rest.length + 1⟩

/-- The double of a numeral, by its significand of 64 bits and one scaling; none when it is too
large. -/
def toDouble? (numeral : NumberText) : Option Double := do
  let whole := takeDigits 0 numeral.whole
  let all := takeDigits whole.kept numeral.fraction
  let places : Int := (whole.dropped : Int) - (numeral.fraction.length - all.dropped : Nat)
  let significand ← Double.ofNat? all.kept
  let scaled ← Double.scale? significand (places + numeral.exponent)
  some (if numeral.negative then scaled.neg else scaled)

/-- The number of a numeral; none when it is too large for a double. -/
def value? (numeral : NumberText) : Option Number :=
  let magnitude := Numeral.value numeral.whole
  if numeral.isInteger = true ∧ numeral.negative = false ∧ magnitude < 18446744073709551616 then
    some (.integer magnitude)
  else if numeral.isInteger = true ∧ numeral.negative = true ∧ 0 < magnitude ∧
      magnitude ≤ 9223372036854775808 then
    some (.integer (-(magnitude : Int)))
  else numeral.toDouble?.map .double

end NumberText

/-- A way to read numerals as numbers, which may refuse some. `NumberText.value?` is one. -/
abbrev NumberReading := NumberText → Option Number

end DesktopAgent.Json
