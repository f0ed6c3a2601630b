/-!
Decimal numerals of integers.

`ofNat` and `ofInt` write the one usual numeral of a number; `toNat?` and `toInt?` read numerals,
which may have leading zeros and, for integers, one sign.
-/

namespace DesktopAgent.Text.Numeral

def digit (value : Nat) : Char :=
  Char.ofNat (48 + value)

def digitValue (c : Char) : Nat :=
  c.toNat - 48

/-- The numeral of a natural number, without leading zeros. -/
def ofNat (n : Nat) : List Char :=
  if n < 10 then [digit n] else ofNat (n / 10) ++ [digit (n % 10)]

/-- The numeral of an integer, with a sign only when it is negative. -/
def ofInt : Int → List Char
  | .ofNat n => ofNat n
  | .negSucc n => '-' :: ofNat (n + 1)

def text (n : Int) : String :=
  String.ofList (ofInt n)

def value (digits : List Char) : Nat :=
  digits.foldl (fun total c => 10 * total + digitValue c) 0

/-- Reads a row of at least one digit. -/
def toNat? (numeral : List Char) : Option Nat :=
  if !numeral.isEmpty && numeral.all Char.isDigit then some (value numeral) else none

/-- Reads a row of at least one digit with at most one sign before it. -/
def toInt? : List Char → Option Int
  | '-' :: digits => (toNat? digits).map fun n => -(n : Int)
  | '+' :: digits => (toNat? digits).map fun n => (n : Int)
  | digits => (toNat? digits).map fun n => (n : Int)

/-- Reads a signed 64-bit integer; a numeral outside the range is refused. -/
def toInt64? (numeral : List Char) : Option Int64 := do
  let n ← toInt? numeral
  if -9223372036854775808 ≤ n ∧ n < 9223372036854775808 then some (Int64.ofInt n) else none

/-- Reads an unsigned 32-bit integer, which may have a plus sign but no minus sign. -/
def toUInt32? (numeral : List Char) : Option UInt32 := do
  let n ← toNat? (if numeral.head? = some '+' then numeral.tail else numeral)
  if n < 4294967296 then some (UInt32.ofNat n) else none

end DesktopAgent.Text.Numeral
