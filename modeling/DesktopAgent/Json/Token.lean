import DesktopAgent.Json.NumberText

/-!
The tokens of a JSON text.

The text is read one character at a time. Words and numerals are the longest stretches of their
characters; a string ends at the first quote without a backslash. A string whose escapes leave half
of a surrogate pair alone is a token without a text.
-/

namespace DesktopAgent.Json

/-- A token; the text of a string is missing when it holds half of a surrogate pair. -/
inductive Token where
  | openArray
  | closeArray
  | openObject
  | closeObject
  | comma
  | colon
  | null
  | boolean (value : Bool)
  | number (numeral : NumberText)
  | string (text : Option String)
deriving DecidableEq, Repr

/-- A UTF-16 unit given by an escape, or a character that stands for itself. -/
inductive StringPart where
  | char (c : Char)
  | unit (value : Nat)
deriving DecidableEq, Repr

def isHighSurrogate (unit : Nat) : Bool := 0xD800 ≤ unit && unit ≤ 0xDBFF

def isLowSurrogate (unit : Nat) : Bool := 0xDC00 ≤ unit && unit ≤ 0xDFFF

/-- The characters of a string's parts; none when a surrogate has no partner. -/
def joinParts? : List StringPart → Option (List Char)
  | [] => some []
  | .char c :: rest => (joinParts? rest).map (c :: ·)
  | .unit high :: .unit low :: rest =>
      if isHighSurrogate high && isLowSurrogate low then
        let point := 0x10000 + (high - 0xD800) * 1024 + (low - 0xDC00)
        (joinParts? rest).map (Char.ofNat point :: ·)
      else if isHighSurrogate high || isLowSurrogate high then none
      else (joinParts? (.unit low :: rest)).map (Char.ofNat high :: ·)
  | .unit value :: rest =>
      if isHighSurrogate value || isLowSurrogate value then none
      else (joinParts? rest).map (Char.ofNat value :: ·)

def escapedBy? : Char → Option Char
  | '"' => some '"'
  | '\\' => some '\\'
  | '/' => some '/'
  | 'b' => some '\x08'
  | 'f' => some '\x0c'
  | 'n' => some '\n'
  | 'r' => some '\r'
  | 't' => some '\t'
  | _ => none

def hexValue? (c : Char) : Option Nat :=
  if '0' ≤ c ∧ c ≤ '9' then some (c.toNat - 48)
  else if 'a' ≤ c ∧ c ≤ 'f' then some (c.toNat - 87)
  else if 'A' ≤ c ∧ c ≤ 'F' then some (c.toNat - 55)
  else none

/-- What the characters read last belong to. Characters and parts are kept in reverse order. -/
inductive Reading where
  | between
  | word (letters : List Char)
  | numeral (chars : List Char)
  | string (parts : List StringPart)
  | escape (parts : List StringPart)
  | unit (parts : List StringPart) (digits : Nat) (value : Nat)
deriving DecidableEq, Repr

/-- A scanner's tokens, in reverse order, and what it is reading. -/
structure Scanner where
  tokens : List Token
  reading : Reading
deriving DecidableEq, Repr

namespace Scanner

def start : Scanner := ⟨[], .between⟩

def wordToken? (letters : List Char) : Option Token :=
  if letters = "null".toList then some .null
  else if letters = "true".toList then some (.boolean true)
  else if letters = "false".toList then some (.boolean false)
  else none

def close? (scanner : Scanner) : Option Scanner :=
  match scanner.reading with
  | .between => some scanner
  | .word letters => do
      let token ← wordToken? letters.reverse
      some ⟨token :: scanner.tokens, .between⟩
  | .numeral chars => do
      let numeral ← NumberText.read? chars.reverse
      some ⟨.number numeral :: scanner.tokens, .between⟩
  | .string _ | .escape _ | .unit .. => none

def isNumeralChar (c : Char) : Bool :=
  c.isDigit || c = '-' || c = '+' || c = '.' || c = 'e' || c = 'E'

def beginsNumeral (c : Char) : Bool :=
  c.isDigit || c = '-'

def punctuation? : Char → Option Token
  | '[' => some .openArray
  | ']' => some .closeArray
  | '\x7b' => some .openObject
  | '\x7d' => some .closeObject
  | ',' => some .comma
  | ':' => some .colon
  | _ => none

/-- Whether a character may stand between tokens without a meaning. -/
def isSpace (c : Char) : Bool :=
  c = ' ' || c = '\t' || c = '\n' || c = '\r'

def begin? (tokens : List Token) (c : Char) : Option Scanner :=
  if isSpace c then some ⟨tokens, .between⟩
  else if c = '"' then some ⟨tokens, .string []⟩
  else if beginsNumeral c then some ⟨tokens, .numeral [c]⟩
  else if c.isLower then some ⟨tokens, .word [c]⟩
  else (punctuation? c).map fun token => ⟨token :: tokens, .between⟩

def step? (scanner : Scanner) (c : Char) : Option Scanner :=
  match scanner.reading with
  | .between => begin? scanner.tokens c
  | .word letters =>
      if c.isLower then some ⟨scanner.tokens, .word (c :: letters)⟩
      else do begin? (← scanner.close?).tokens c
  | .numeral chars =>
      if isNumeralChar c then some ⟨scanner.tokens, .numeral (c :: chars)⟩
      else do begin? (← scanner.close?).tokens c
  | .string parts =>
      if c = '"' then
        some ⟨.string ((joinParts? parts.reverse).map String.ofList) :: scanner.tokens, .between⟩
      else if c = '\\' then some ⟨scanner.tokens, .escape parts⟩
      else if c.toNat < 0x20 then none
      else some ⟨scanner.tokens, .string (.char c :: parts)⟩
  | .escape parts =>
      if c = 'u' then some ⟨scanner.tokens, .unit parts 0 0⟩
      else (escapedBy? c).map fun char => ⟨scanner.tokens, .string (.char char :: parts)⟩
  | .unit parts digits value =>
      (hexValue? c).map fun digit =>
        if digits = 3 then ⟨scanner.tokens, .string (.unit (16 * value + digit) :: parts)⟩
        else ⟨scanner.tokens, .unit parts (digits + 1) (16 * value + digit)⟩

def run? (scanner : Scanner) : List Char → Option Scanner
  | [] => some scanner
  | c :: rest => do (← scanner.step? c).run? rest

end Scanner

/-- The tokens of a text; none when it holds something that is no token. -/
def tokens? (text : List Char) : Option (List Token) := do
  let scanner ← Scanner.start.run? text
  let closed ← scanner.close?
  some closed.tokens.reverse

end DesktopAgent.Json
