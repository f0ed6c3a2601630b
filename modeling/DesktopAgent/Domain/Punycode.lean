/-!
Labels written in ASCII.

The ASCII characters of a label come first, then a hyphen if there are any, then a row of numbers
that say where which other character stands. A number is written in base 36, its lowest digit first;
a digit below the threshold of its place ends it. The thresholds follow the size of the numbers
before, through a bias.
-/

namespace DesktopAgent.Domain.Punycode

def digit (value : Nat) : Char :=
  if value < 26 then Char.ofNat (97 + value) else Char.ofNat (22 + value)

def digitValue? (c : Char) : Option Nat :=
  if c.isLower then some (c.toNat - 97)
  else if c.isUpper then some (c.toNat - 65)
  else if c.isDigit then some (c.toNat - 22)
  else none

def threshold (bias place : Nat) : Nat :=
  if place ≤ bias then 1 else if bias + 26 ≤ place then 26 else place - bias

theorem threshold_pos (bias place : Nat) : 0 < threshold bias place := by
  unfold threshold
  split
  · omega
  · split <;> omega

def firstPlace : Nat := 36

def firstBias : Nat := 72

/-- The first code point that is no ASCII character. -/
def firstPoint : Nat := 128

/-- The bias for a number that has been made small, at a place. -/
def biasFrom (delta place : Nat) : Nat :=
  if 455 < delta then biasFrom (delta / 35) (place + 36) else place + 36 * delta / (delta + 38)
termination_by delta
decreasing_by omega

/-- The bias after a number, when a label has `count` characters. -/
def adapt (delta count : Nat) (isFirst : Bool) : Nat :=
  let delta := if isFirst then delta / 700 else delta / 2
  biasFrom (delta + delta / count) 0

def digits (bias place number : Nat) : List Char :=
  let limit := threshold bias place
  if number < limit then [digit number]
  else
    digit (limit + (number - limit) % (36 - limit)) ::
      digits bias (place + 36) ((number - limit) / (36 - limit))
termination_by number
decreasing_by
  have positive := threshold_pos bias place
  have smaller := Nat.div_le_self (number - threshold bias place) (36 - threshold bias place)
  omega

/-- What has been written of a label: the digits, the number that is being counted, the bias, and
how many characters have been handled. -/
structure Writing where
  digits : List Char
  delta : Nat
  bias : Nat
  handled : Nat
deriving DecidableEq, Repr

namespace Writing

/-- Passes over a character while the places of the code point `point` are counted, the ASCII
characters of the label being `basic` in number. -/
def pass (basic point : Nat) (writing : Writing) (c : Char) : Writing :=
  if c.toNat < point then { writing with delta := writing.delta + 1 }
  else if c.toNat = point then
    { digits := writing.digits ++ Punycode.digits writing.bias firstPlace writing.delta
      delta := 0
      bias := adapt writing.delta (writing.handled + 1) (writing.handled = basic)
      handled := writing.handled + 1 }
  else writing

/-- Writes the places of code points, which increase and are at least `next`. -/
def writePoints (label : List Char) (basic : Nat) :
    (points : List Nat) → (next : Nat) → Writing → Writing
  | [], _, writing => writing
  | point :: rest, next, writing =>
      let reached :=
        { writing with delta := writing.delta + (point - next) * (writing.handled + 1) }
      let passed := label.foldl (pass basic point) reached
      writePoints label basic rest (point + 1) { passed with delta := passed.delta + 1 }

end Writing

def isBasic (c : Char) : Bool := c.toNat < firstPoint

/-- The code points of a label that are not ASCII, each once, in increasing order. -/
def foreignPoints (label : List Char) : List Nat :=
  (((label.filter fun c => !isBasic c).map Char.toNat).mergeSort (· ≤ ·)).eraseReps

def encode (label : List Char) : List Char :=
  let basic := label.filter isBasic
  let written := Writing.writePoints label basic.length (foreignPoints label) firstPoint
    ⟨[], 0, firstBias, basic.length⟩
  (if basic.isEmpty then [] else basic ++ ['-']) ++ written.digits

/-- What has been read of a label: its characters so far, the code point and the position that are
next, where the number that is being read began, the weight and the place of its next digit, and the
bias. -/
structure Reading where
  chars : List Char
  point : Nat
  position : Nat
  start : Nat
  weight : Nat
  place : Nat
  bias : Nat
deriving DecidableEq, Repr

namespace Reading

/-- A label of which the ASCII characters have been read. -/
def begun (basic : List Char) : Reading := ⟨basic, firstPoint, 0, 0, 1, firstPlace, firstBias⟩

def isCharacter (point : Nat) : Bool :=
  point < 0xD800 || (0xDFFF < point && point < 0x110000)

/-- Reads one digit. The last digit of a number puts a character into its place. -/
def step (reading : Reading) (c : Char) : Option Reading := do
  let value ← digitValue? c
  let position := reading.position + value * reading.weight
  let limit := threshold reading.bias reading.place
  if value < limit then
    let count := reading.chars.length + 1
    let point := reading.point + position / count
    let index := position % count
    if isCharacter point then
      some {
        chars := reading.chars.insertIdx index (Char.ofNat point)
        point := point
        position := index + 1
        start := index + 1
        weight := 1
        place := firstPlace
        bias := adapt (position - reading.start) count (reading.start = 0) }
    else none
  else
    some { reading with
      position := position
      weight := reading.weight * (36 - limit)
      place := reading.place + 36 }

def finish (reading : Reading) : Option (List Char) :=
  if reading.place = firstPlace then some reading.chars else none

end Reading

/-- The label that a text in ASCII stands for. A hyphen that follows nothing ends no characters. -/
def decode? (text : List Char) : Option (List Char) := do
  let numbers := (text.reverse.takeWhile (· ≠ '-')).reverse
  let basic := (text.take (text.length - numbers.length)).dropLast
  if basic.isEmpty && numbers.length < text.length then none
  if basic.all isBasic then (← numbers.foldlM Reading.step (.begun basic)).finish else none

end DesktopAgent.Domain.Punycode
