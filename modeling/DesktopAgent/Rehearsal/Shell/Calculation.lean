import DesktopAgent.Rehearsal.Finish

/-!
Calculations of shell scripts.

A calculation joins numbers and variables by operators, of which some bind more tightly than others,
and may set variables. What does not count towards its value is read but not worked out. Values have
64 bits and wrap around.
-/

namespace DesktopAgent.Rehearsal.Shell

/-- A part of a calculation. -/
inductive SumToken where
  | number (value : Int)
  | name (letters : List Char)
  | mark (text : String)
deriving DecidableEq, Repr

/-- The marks of several characters, longer ones before their beginnings. -/
def longMarks : List String :=
  ["<<=", ">>=", "||", "&&", "==", "!=", "<=", ">=", "<<", ">>", "+=", "-=", "*=", "/=", "%=", "&=",
    "|=", "^="]

/-- The base of a written number, and how many characters announce it. -/
def writtenBase : List Char → Nat × Nat
  | '0' :: x :: digit :: _ =>
      if (x = 'x' || x = 'X') && isHexadecimal digit then (16, 2) else (8, 0)
  | '0' :: _ => (8, 0)
  | _ => (10, 0)

def isDigitIn (base : Nat) (c : Char) : Bool := isHexadecimal c && digitValue c < base

def greatestValue : Int := 9223372036854775807

def leastValue : Int := -9223372036854775808

/-- The natural number with which a text begins, and how many characters it takes. -/
def writtenNumber (text : List Char) : Nat × Nat :=
  let (base, announced) := writtenBase text
  let digits := (text.drop announced).takeWhile (isDigitIn base)
  (digits.foldl (fun value c => value * base + digitValue c) 0, announced + digits.length)

/-- Whether a character separates the parts of a calculation. -/
def isSumBlank (c : Char) : Bool := c = ' ' || c = '\t' || c = '\n'

/-- The part with which a text begins, and how many characters it takes. -/
def sumToken (first : Char) (rest : List Char) : SumToken × Nat :=
  let text := first :: rest
  let letters := text.takeWhile fun c => c.isAlphanum || c = '_'
  let (value, length) := writtenNumber text
  if first.isDigit then (.number (min value greatestValue), length)
  else if !letters.isEmpty then (.name letters, letters.length)
  else
    match longMarks.find? fun mark => mark.toList.isPrefixOf text with
    | some mark => (.mark mark, mark.length)
    | none => (.mark (String.ofList [first]), 1)

def sumTokens : List Char → List SumToken
  | [] => []
  | first :: rest =>
      if isSumBlank first then sumTokens rest
      else
        let (token, length) := sumToken first rest
        token :: sumTokens (rest.drop (length - 1))
termination_by text => text.length

/-- What a calculation expects where something else stands. -/
inductive SumGoal where
  | primary
  | ending
  | closing
  | otherwise
deriving DecidableEq, Repr

/-- Why a calculation has no value. -/
inductive SumProblem where
  | expecting (goal : SumGoal)
  | badNumber (text : String)
  | divisionByZero
  | overflow
deriving DecidableEq, Repr

def SumGoal.name : SumGoal → String
  | .primary => "primary"
  | .ending => "EOF"
  | .closing => "')'"
  | .otherwise => "':'"

def SumProblem.message (text : String) : SumProblem → String
  | .expecting goal => "arithmetic expression: expecting " ++ goal.name ++ ": \"" ++ text ++ "\""
  | .badNumber number => "Illegal number: " ++ number
  | .divisionByZero => "arithmetic expression: division by zero: \"" ++ text ++ "\""
  | .overflow => ""

/-- A number within 64 bits. -/
def wrapped (value : Int) : Int := value.bmod 18446744073709551616

/-- One or zero. -/
def truth (holds : Bool) : Int := if holds then 1 else 0

/-- The operators between two values; each group binds more tightly than those before it. -/
def markLevels : List (List String) :=
  [["||"], ["&&"], ["|"], ["^"], ["&"], ["==", "!="], ["<", "<=", ">", ">="], ["<<", ">>"],
    ["+", "-"], ["*", "/", "%"]]

/-- The marks that set a variable, with the operators that join its value and another one. -/
def settingMarks : List (String × String) :=
  [("*=", "*"), ("/=", "/"), ("%=", "%"), ("+=", "+"), ("-=", "-"), ("<<=", "<<"), (">>=", ">>"),
    ("&=", "&"), ("^=", "^"), ("|=", "|")]

def bitwise (join : Nat → Nat → Nat) (left right : Int) : Int :=
  let word (value : Int) : Nat := (value % 18446744073709551616).toNat
  join (word left) (word right)

/-- A value divided by another one, as `join` divides them. -/
def divided (join : Int → Int → Int) (left right : Int) : Except SumProblem Int :=
  if right = 0 then .error .divisionByZero
  else if left = leastValue && right = -1 then .error .overflow
  else .ok (join left right)

def joinValues (mark : String) (left right : Int) : Except SumProblem Int :=
  match mark with
  | "||" => .ok (truth (left ≠ 0 || right ≠ 0))
  | "&&" => .ok (truth (left ≠ 0 && right ≠ 0))
  | "|" => .ok (wrapped (bitwise Nat.lor left right))
  | "^" => .ok (wrapped (bitwise Nat.xor left right))
  | "&" => .ok (wrapped (bitwise Nat.land left right))
  | "==" => .ok (truth (left = right))
  | "!=" => .ok (truth (left ≠ right))
  | "<" => .ok (truth (left < right))
  | "<=" => .ok (truth (left ≤ right))
  | ">" => .ok (truth (right < left))
  | ">=" => .ok (truth (right ≤ left))
  | "<<" => .ok (wrapped (left * (2 : Int).pow (right % 64).toNat))
  | ">>" => .ok (left.fdiv ((2 : Int).pow (right % 64).toNat))
  | "+" => .ok (wrapped (left + right))
  | "-" => .ok (wrapped (left - right))
  | "*" => .ok (wrapped (left * right))
  | "/" => divided Int.tdiv left right
  | _ => divided Int.tmod left right

/-- The value of an operator before a value, if there is such an operator. -/
def signedValue? (mark : String) (value : Int) : Option Int :=
  match mark with
  | "-" => some (wrapped (-value))
  | "+" => some value
  | "!" => some (truth (value = 0))
  | "~" => some (-1 - value)
  | _ => none

/-- What a calculation is read from and where it has come: how the values of variables are known,
the variables that it has set, the last one first, and the parts that are left. -/
structure Sum where
  known : List Char → Except SumProblem Int
  settings : List (List Char × Int)
  rest : List SumToken

namespace Sum

def valueOf (sum : Sum) (isSkipped : Bool) (name : List Char) : Except SumProblem Int :=
  if isSkipped then .ok 0
  else
    match sum.settings.lookup name with
    | some value => .ok value
    | none => sum.known name

/-- The first part that is left, if it is a mark. -/
def mark? (sum : Sum) : Option String :=
  match sum.rest with
  | .mark mark :: _ => some mark
  | _ => none

def next (sum : Sum) : Sum := { sum with rest := sum.rest.tail }

def expect (sum : Sum) (mark : String) (goal : SumGoal) : Except SumProblem Sum :=
  if sum.mark? = some mark then .ok sum.next else .error (.expecting goal)

mutual

/-- The value of what stands between operators. -/
def readPrimary : Nat → Bool → Sum → Except SumProblem (Int × Sum)
  | 0, _, _ => .error (.expecting .primary)
  | fuel + 1, isSkipped, sum =>
      match sum.rest with
      | .number value :: _ => .ok (value, sum.next)
      | .name letters :: _ => do return (← sum.valueOf isSkipped letters, sum.next)
      | .mark "(" :: _ => do
          let (value, sum) ← readTotal fuel isSkipped sum.next
          return (value, ← sum.expect ")" .closing)
      | .mark mark :: _ =>
          if (signedValue? mark 0).isNone then .error (.expecting .primary)
          else do
            let (value, sum) ← readPrimary fuel isSkipped sum.next
            return ((signedValue? mark value).getD 0, sum)
      | [] => .error (.expecting .primary)

/-- The value of what operators of some levels join. -/
def readLevels : Nat → Bool → List (List String) → Sum → Except SumProblem (Int × Sum)
  | 0, _, _, _ => .error (.expecting .primary)
  | fuel + 1, isSkipped, [], sum => readPrimary fuel isSkipped sum
  | fuel + 1, isSkipped, level :: levels, sum => do
      let (first, sum) ← readLevels fuel isSkipped levels sum
      readFurther fuel isSkipped level levels first sum

/-- The value of what goes on after a value. What a value alone decides is not worked out. -/
def readFurther : Nat → Bool → List String → List (List String) → Int → Sum →
    Except SumProblem (Int × Sum)
  | 0, _, _, _, _, _ => .error (.expecting .primary)
  | fuel + 1, isSkipped, level, levels, left, sum =>
      match sum.mark?.filter level.contains with
      | some mark => do
          let isDecided := (mark = "&&" && left = 0) || (mark = "||" && left ≠ 0)
          let (right, sum) ← readLevels fuel (isSkipped || isDecided) levels sum.next
          let value ← if isSkipped then .ok 0 else joinValues mark left right
          readFurther fuel isSkipped level levels value sum
      | none => .ok (left, sum)

/-- A value that may depend on another one. -/
def readChosen : Nat → Bool → Sum → Except SumProblem (Int × Sum)
  | 0, _, _ => .error (.expecting .primary)
  | fuel + 1, isSkipped, sum => do
      let (condition, sum) ← readLevels fuel isSkipped markLevels sum
      if sum.mark? = some "?" then
        let (yes, sum) ← readTotal fuel (isSkipped || condition = 0) sum.next
        let sum ← sum.expect ":" .otherwise
        let (no, sum) ← readChosen fuel (isSkipped || condition ≠ 0) sum
        return (if condition ≠ 0 then yes else no, sum)
      else return (condition, sum)

/-- A value to which a variable may be set. -/
def readTotal : Nat → Bool → Sum → Except SumProblem (Int × Sum)
  | 0, _, _ => .error (.expecting .primary)
  | fuel + 1, isSkipped, sum =>
      match sum.rest, sum.next.mark? with
      | .name letters :: _, some mark =>
          if mark = "=" || (settingMarks.lookup mark).isSome then do
            let (value, sum) ← readTotal fuel isSkipped sum.next.next
            if isSkipped then return (value, sum)
            let value ←
              match settingMarks.lookup mark with
              | some operator => do joinValues operator (← sum.valueOf false letters) value
              | none => .ok value
            return (value, { sum with settings := (letters, value) :: sum.settings })
          else readChosen fuel isSkipped sum
      | _, _ => readChosen fuel isSkipped sum

end

end Sum

/-- The value of a calculation and the variables that it sets, in order, where `known` gives the
values of others. -/
def calculate (known : List Char → Except SumProblem Int) (text : List Char) :
    Except SumProblem (Int × List (List Char × Int)) := do
  let tokens := sumTokens text
  let (value, sum) ← Sum.readTotal (16 * (tokens.length + 1)) false ⟨known, [], tokens⟩
  if sum.rest.isEmpty then return (value, sum.settings.reverse)
  else throw (.expecting .ending)

/-- The number that a text stands for where calculations take it from elsewhere: blanks may surround
it, and nothing is zero. -/
def numberOfText? (text : List Char) : Option Int :=
  let isBlank (c : Char) : Bool := isSumBlank c || c = '\r' || c = '\x0b' || c = '\x0c'
  let trimmed := text.dropWhile isBlank
  let isNegative := trimmed.head? = some '-'
  let unsigned := if isNegative || trimmed.head? = some '+' then trimmed.drop 1 else trimmed
  let (magnitude, length) := writtenNumber unsigned
  let value : Int := if isNegative then -magnitude else magnitude
  let rest := if length = 0 then text else unsigned.drop length
  if rest.all isBlank && leastValue ≤ value && value ≤ greatestValue then some value else none

end DesktopAgent.Rehearsal.Shell
