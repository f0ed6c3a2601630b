import DesktopAgent.Text.Numeral
import DesktopAgent.Text.Parts
import DesktopAgent.Url.Escape

/-!
Numeric addresses of hosts.

An address of 32 bits is up to four numbers between points, each decimal, octal after a zero or
hexadecimal after `0x`; the last number fills the bytes that are left. It is written as four decimal
numbers. An address of 128 bits is eight groups of up to four hexadecimal digits between colons; two
colons stand for groups of zeros, and an address of four decimal numbers may stand for the last two
groups. It is written with its longest row of zeros shortened.
-/

namespace DesktopAgent.Url

open DesktopAgent.Text

def valueIn? (base : Nat) (digits : List Char) : Option Nat :=
  digits.foldlM (fun value c => do
    let digit ← hexValue? c
    if digit < base then some (value * base + digit) else none) 0

def addressNumber? (text : List Char) : Option Nat :=
  match text with
  | [] => none
  | '0' :: 'x' :: digits | '0' :: 'X' :: digits => valueIn? 16 digits
  | '0' :: c :: digits => valueIn? 8 (c :: digits)
  | digits => valueIn? 10 digits

/-- The parts of a name between its points, without an empty part at the end. -/
def pointedParts (name : List Char) : List (List Char) :=
  let all := parts (· = '.') name
  if 1 < all.length && all.getLast? = some [] then all.dropLast else all

/-- Whether a name ends in a number, and so must be an address. -/
def endsInNumber (name : List Char) : Bool :=
  (pointedParts name).getLast?.any fun last =>
    (!last.isEmpty && last.all Char.isDigit) || (addressNumber? last).isSome

/-- The value of the numbers of an address, the last of which fills the bytes that are left. -/
def addressValue? : (bytesLeft : Nat) → List Nat → Option Nat
  | _, [] => none
  | bytesLeft, [last] => if last < Nat.pow 256 bytesLeft then some last else none
  | bytesLeft, number :: rest => do
      let later ← addressValue? (bytesLeft - 1) rest
      if number < 256 then some (number * Nat.pow 256 (bytesLeft - 1) + later) else none

def ipv4? (name : List Char) : Option Nat := do
  let numbers := pointedParts name
  if 4 < numbers.length then none
  else addressValue? 4 (← numbers.mapM addressNumber?)

def ipv4Text (address : Nat) : List Char :=
  joined '.' ([16777216, 65536, 256, 1].map fun unit => Numeral.ofNat (address / unit % 256))

def decimalByte? (digits : List Char) : Option Nat :=
  if digits.isEmpty || (digits.head? = some '0' && 1 < digits.length) then none
  else (valueIn? 10 digits).filter (· < 256)

/-- The values of a group, which are two when it is an address of four decimal numbers. -/
def groupValues? (isLast : Bool) (group : List Char) : Option (List Nat) :=
  if isLast && group.contains '.' then
    match (parts (· = '.') group).mapM decimalByte? with
    | some [a, b, c, d] => some [a * 256 + b, c * 256 + d]
    | _ => none
  else if group.isEmpty || 4 < group.length then none
  else (valueIn? 16 group).map fun value => [value]

/-- The values of groups, the last of which may be an address of four decimal numbers if `isEnd`. -/
def groupsValues? (isEnd : Bool) : List (List Char) → Option (List Nat)
  | [] => some []
  | group :: rest => do
      let values ← groupValues? (isEnd && rest.isEmpty) group
      some (values ++ (← groupsValues? isEnd rest))

def textValues? (isEnd : Bool) (text : List Char) : Option (List Nat) :=
  if text.isEmpty then some [] else groupsValues? isEnd (parts (· = ':') text)

/-- What precedes and what follows the first two colons that stand together. -/
def aroundGap? : List Char → Option (List Char × List Char)
  | ':' :: ':' :: rest => some ([], rest)
  | c :: rest => (aroundGap? rest).map fun (before, after) => (c :: before, after)
  | [] => none

def ipv6? (text : List Char) : Option (List Nat) := do
  match aroundGap? text with
  | some (before, after) =>
      let first ← textValues? false before
      let last ← textValues? true after
      let zeros := 8 - (first.length + last.length)
      if zeros = 0 then none else some (first ++ List.replicate zeros 0 ++ last)
  | none =>
      let groups ← textValues? true text
      if groups.length = 8 then some groups else none

def leadingZeros (groups : List Nat) : Nat := (groups.takeWhile (· = 0)).length

/-- Where the longest row of at least two zeros begins, and its length. Of rows that are equally
long the first one counts. -/
def longestZeros (groups : List Nat) : Option (Nat × Nat) :=
  (List.range groups.length).foldl (fun longest start =>
    let length := leadingZeros (groups.drop start)
    if (longest.map (·.2)).getD 1 < length then some (start, length) else longest) none

def groupsText (groups : List Nat) : List Char := joined ':' (groups.map (Nat.toDigits 16))

def ipv6Text (groups : List Nat) : List Char :=
  match longestZeros groups with
  | some (start, length) =>
      groupsText (groups.take start) ++ [':', ':'] ++ groupsText (groups.drop (start + length))
  | none => groupsText groups

end DesktopAgent.Url
