import DesktopAgent.Double.Rounding
import DesktopAgent.Rehearsal.Finish
import DesktopAgent.Text.Numeral

/-!
Floating-point numbers that programs read and write.

A number has a mantissa of so many bits and a power of two. It is read from a decimal or hexadecimal
text as the number nearest to it, and it is written exactly, rounded to so many digits; in both
directions a tie goes to the even neighbour.
-/

namespace DesktopAgent.Rehearsal

open DesktopAgent.Text

/-- How exact numbers are: the bits of a mantissa, and the least and the greatest power of two of
its last bit. -/
structure Exactness where
  bits : Nat
  least : Int
  greatest : Int
deriving DecidableEq, Repr

/-- Numbers of 64 bits. -/
def Exactness.double : Exactness := ⟨53, -1074, 971⟩

/-- Numbers of 80 bits. -/
def Exactness.extended : Exactness := ⟨64, -16445, 16320⟩

/-- A number without its sign: a mantissa times a power of two, infinity, or none at all. -/
inductive Magnitude where
  | finite (mantissa : Nat) (exponent : Int)
  | infinite
  | undefined
deriving DecidableEq, Repr

structure Floating where
  isNegative : Bool
  magnitude : Magnitude
deriving DecidableEq, Repr

namespace Exactness

/-- The power of two of the last bit of the number nearest to a ratio that is not zero. -/
def unit (exactness : Exactness) (num den : Nat) : Int :=
  let estimate : Int := (num.log2 : Int) - (den.log2 : Int) - exactness.bits
  let (scaledNum, scaledDen) := Double.inUnits num den estimate
  let isEnough : Bool := scaledNum / scaledDen < Nat.pow 2 exactness.bits
  max exactness.least (if isEnough then estimate else estimate + 1)

/-- The number nearest to a ratio, and whether the ratio is out of the range in which numbers are
exact to all bits. -/
def nearest (exactness : Exactness) (num den : Nat) : Magnitude × Bool :=
  if num = 0 then (.finite 0 exactness.least, false)
  else
    let unit := exactness.unit num den
    let (scaledNum, scaledDen) := Double.inUnits num den unit
    let rounded := Double.divideToEven scaledNum scaledDen
    let limit := Nat.pow 2 exactness.bits
    let (mantissa, unit) := if rounded = limit then (limit / 2, unit + 1) else (rounded, unit)
    let isTiny : Bool := mantissa < limit / 2 && scaledNum % scaledDen ≠ 0
    if exactness.greatest < unit then (.infinite, true) else (.finite mantissa unit, isTiny)

end Exactness

/-- A number that a text begins with, whether it is out of range, and the text after it; none where
the text begins with no number. -/
structure FloatingText where
  number : Floating
  isOutOfRange : Bool
  rest : List Char
deriving DecidableEq, Repr

def readExponent (mark : Char) (text : List Char) : Int × List Char :=
  let signed := text.drop 1
  let isNegative := signed.head? = some '-'
  let unsigned := if isNegative || signed.head? = some '+' then signed.drop 1 else signed
  let digits := unsigned.takeWhile Char.isDigit
  if text.head?.any (fun c => c.toLower = mark) && !digits.isEmpty then
    let value : Int := Numeral.value digits
    (if isNegative then -value else value, unsigned.dropWhile Char.isDigit)
  else (0, text)

/-- A ratio that cannot be told from numbers that are larger or smaller still is beyond this power
of ten. -/
def exponentLimit : Int := 6000

/-- The digits of a number with a point in some base, how many of them follow the point, and the
text after it. -/
def readDigits? (base : Nat) (text : List Char) : Option (List Char × Nat × List Char) :=
  let isDigit (c : Char) : Bool := isHexadecimal c && digitValue c < base
  let whole := text.takeWhile isDigit
  let afterWhole := text.dropWhile isDigit
  let fraction :=
    if afterWhole.head? = some '.' then (afterWhole.drop 1).takeWhile isDigit else []
  let length := whole.length + (if afterWhole.head? = some '.' then fraction.length + 1 else 0)
  if whole.isEmpty && fraction.isEmpty then none
  else some (whole ++ fraction, fraction.length, text.drop length)

/-- The number of digits in some base times a power, where `step` is the power of one place. -/
def ofDigits (exactness : Exactness) (base : Nat) (digits : List Char) (power places : Int)
    (step : Nat) : Magnitude × Bool :=
  let value := digits.foldl (fun value c => value * base + digitValue c) 0
  let size : Int := (digits.dropWhile (· = '0')).length
  if value = 0 then exactness.nearest 0 1
  else if 4 * exponentLimit < power + 4 * size then (.infinite, true)
  else if power + 4 * size < -(4 * exponentLimit) then (.finite 0 exactness.least, true)
  else
    let power := power - places
    exactness.nearest (value * Nat.pow step power.toNat) (Nat.pow step (-power).toNat)

def readMagnitude? (exactness : Exactness) (text : List Char) :
    Option (Magnitude × Bool × List Char) :=
  let lower := text.map Char.toLower
  let afterBase := text.drop 2
  let isHexadecimalNumber :=
    "0x".toList.isPrefixOf lower && (readDigits? 16 afterBase).isSome
  if isHexadecimalNumber then
    (readDigits? 16 afterBase).map fun (digits, places, rest) =>
      let (power, rest) := readExponent 'p' rest
      let (magnitude, isOut) := ofDigits exactness 16 digits power (4 * places) 2
      (magnitude, isOut, rest)
  else
    match readDigits? 10 text with
    | some (digits, places, rest) =>
        let (power, rest) := readExponent 'e' rest
        let (magnitude, isOut) := ofDigits exactness 10 digits power places 10
        some (magnitude, isOut, rest)
    | none =>
        if "infinity".toList.isPrefixOf lower then some (.infinite, false, text.drop 8)
        else if "inf".toList.isPrefixOf lower then some (.infinite, false, text.drop 3)
        else if "nan".toList.isPrefixOf lower then
          let after := text.drop 3
          let inside := (after.drop 1).takeWhile fun c => c.isAlphanum || c = '_'
          let isEnclosed :=
            after.head? = some '(' && (after.drop (inside.length + 1)).head? = some ')'
          some (.undefined, false, if isEnclosed then after.drop (inside.length + 2) else after)
        else none

/-- Reads the number with which a text begins, after blanks. -/
def readFloating? (exactness : Exactness) (text : List Char) : Option FloatingText :=
  let trimmed := text.dropWhile fun c => c = ' ' || ('\t' ≤ c && c ≤ '\r')
  let isNegative := trimmed.head? = some '-'
  let unsigned := if isNegative || trimmed.head? = some '+' then trimmed.drop 1 else trimmed
  (readMagnitude? exactness unsigned).map fun (magnitude, isOut, rest) =>
    ⟨⟨isNegative, magnitude⟩, isOut, rest⟩

/-- The whole number nearest to a number times a power of ten. -/
def scaledToTen (mantissa : Nat) (exponent power : Int) : Nat :=
  Double.divideToEven (mantissa * Nat.pow 2 exponent.toNat * Nat.pow 10 power.toNat)
    (Nat.pow 2 (-exponent).toNat * Nat.pow 10 (-power).toNat)

/-- A whole number with a point before its last `places` digits. The point stands also where no
digits follow it if `keepsPoint`. -/
def pointed (keepsPoint : Bool) (places value : Nat) : List Char :=
  let digits := Nat.toDigits 10 value
  let padded := List.replicate (places + 1 - digits.length) '0' ++ digits
  let whole := padded.take (padded.length - places)
  whole ++ (if places = 0 && !keepsPoint then [] else ['.']) ++ padded.drop whole.length

/-- A number with so many digits after the point. -/
def fixedText (keepsPoint : Bool) (places mantissa : Nat) (exponent : Int) : List Char :=
  pointed keepsPoint places (scaledToTen mantissa exponent places)

/-- A number as `digits` digits and a power of ten, so that the first digit is that of the power. -/
def scientific (digits mantissa : Nat) (exponent : Int) : Nat × Int :=
  if mantissa = 0 then (0, 0)
  else
    let num := mantissa * Nat.pow 2 exponent.toNat
    let den := Nat.pow 2 (-exponent).toNat
    let guess : Int :=
      if den ≤ num then (Nat.toDigits 10 (num / den)).length - 1
      else -((Nat.toDigits 10 (den / num)).length : Int)
    let isBelow : Bool :=
      num * Nat.pow 10 (-(guess + 1)).toNat < den * Nat.pow 10 (guess + 1).toNat
    let power := if isBelow then guess else guess + 1
    let value := scaledToTen mantissa exponent ((digits : Int) - 1 - power)
    if value = Nat.pow 10 digits then (value / 10, power + 1) else (value, power)

def exponentText (mark : Char) (width : Nat) (exponent : Int) : List Char :=
  let digits := Nat.toDigits 10 exponent.natAbs
  mark :: (if exponent < 0 then '-' else '+') ::
    (List.replicate (width - digits.length) '0' ++ digits)

/-- A number with one digit before the point, `places` after it, and an exponent. -/
def scientificText (keepsPoint : Bool) (places mantissa : Nat) (exponent : Int) : List Char :=
  let (value, power) := scientific (places + 1) mantissa exponent
  pointed keepsPoint places value ++ exponentText 'e' 2 power

/-- A text with a point without the zeros at its end. -/
def withoutZeros (text : List Char) : List Char :=
  if text.contains '.' then
    let kept := (text.reverse.dropWhile (· = '0')).reverse
    if kept.getLast? = some '.' then kept.dropLast else kept
  else text

/-- A number with so many digits in all, in the shorter of two forms. -/
def generalText (keepsZeros : Bool) (digits mantissa : Nat) (exponent : Int) : List Char :=
  let digits := max digits 1
  let (value, power) := scientific digits mantissa exponent
  let trimmed (text : List Char) : List Char := if keepsZeros then text else withoutZeros text
  if -4 ≤ power && power < digits then
    trimmed (fixedText keepsZeros ((digits : Int) - 1 - power).toNat mantissa exponent)
  else trimmed (pointed keepsZeros (digits - 1) value) ++ exponentText 'e' 2 power

/-- The digits after the first one, without zeros at the end. -/
def hexadecimalPlaces (exactness : Exactness) (mantissa : Nat) : Nat :=
  let all := (exactness.bits - 1) / 4
  let zeros := (List.range all).takeWhile fun count => mantissa % Nat.pow 16 (count + 1) = 0
  all - zeros.length

/-- A number in base 16, whose first digit holds the bits that are left over by whole digits. -/
def hexadecimalText (exactness : Exactness) (keepsPoint : Bool) (places : Option Nat)
    (mantissa : Nat) (exponent : Int) : List Char :=
  let all := (exactness.bits - 1) / 4
  let places := places.getD (hexadecimalPlaces exactness mantissa)
  let rounded :=
    if all ≤ places then mantissa * Nat.pow 16 (places - all)
    else Double.divideToEven mantissa (Nat.pow 16 (all - places))
  let isCarried : Bool := Nat.pow 16 (places + 1) ≤ rounded
  let rounded := if isCarried then rounded / 16 else rounded
  let power := if mantissa = 0 then 0 else exponent + 4 * all + if isCarried then 4 else 0
  let digits := Nat.toDigits 16 rounded
  let padded := List.replicate (places + 1 - digits.length) '0' ++ digits
  ['0', 'x'] ++ padded.take 1 ++ (if places = 0 && !keepsPoint then [] else ['.']) ++
    padded.drop 1 ++ exponentText 'p' 1 power

def floatingKinds : List Char := ['a', 'A', 'e', 'E', 'f', 'F', 'g', 'G']

/-- A number without its sign as a kind of conversion writes it. -/
def magnitudeText (exactness : Exactness) (kind : Char) (keepsPoint : Bool)
    (precision : Option Nat) : Magnitude → List Char
  | .infinite => ['i', 'n', 'f']
  | .undefined => ['n', 'a', 'n']
  | .finite mantissa exponent =>
      let places := precision.getD 6
      match kind.toLower with
      | 'e' => scientificText keepsPoint places mantissa exponent
      | 'g' => generalText keepsPoint places mantissa exponent
      | 'a' => hexadecimalText exactness keepsPoint precision mantissa exponent
      | _ => fixedText keepsPoint places mantissa exponent

/-- A number as a kind of conversion with flags writes it, at least `width` characters of it. -/
def floatingText (exactness : Exactness) (kind : Char) (flags : List Char) (width : Nat)
    (precision : Option Nat) (number : Floating) : List Char :=
  let plain := magnitudeText exactness kind (flags.contains '#') precision number.magnitude
  let shown := if kind.isUpper then plain.map Char.toUpper else plain
  let sign :=
    if number.isNegative then ['-'] else if flags.contains '+' then ['+']
    else if flags.contains ' ' then [' '] else []
  let isFinite :=
    match number.magnitude with
    | .finite .. => true
    | _ => false
  let padding := width - (sign.length + shown.length)
  if flags.contains '-' then sign ++ shown ++ List.replicate padding ' '
  else if flags.contains '0' && isFinite then
    let (opening, digits) := if kind.toLower = 'a' then shown.splitAt 2 else ([], shown)
    sign ++ opening ++ List.replicate padding '0' ++ digits
  else List.replicate padding ' ' ++ sign ++ shown

end DesktopAgent.Rehearsal
