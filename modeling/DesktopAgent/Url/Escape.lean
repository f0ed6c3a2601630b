import DesktopAgent.Text.Utf8

/-!
Percent escapes.

A byte is escaped as a percent sign and its two hexadecimal digits. Controls and characters beyond
ASCII are escaped in every part of a URL; which other characters are depends on the part.
-/

namespace DesktopAgent.Url

open DesktopAgent.Text

def hexDigit (value : Nat) : Char :=
  if value < 10 then Char.ofNat (48 + value) else Char.ofNat (55 + value)

def escaped (c : Char) : List Char :=
  (Utf8.encode (String.ofList [c])).flatMap fun byte =>
    ['%', hexDigit (byte.toNat / 16), hexDigit (byte.toNat % 16)]

/-- Whether a character is a control or beyond ASCII. -/
def isForeign (c : Char) : Bool := c.toNat < 0x20 || 0x7E < c.toNat

def escapeAll (special : List Char) (text : List Char) : List Char :=
  text.flatMap fun c => if isForeign c || special.contains c then escaped c else [c]

/-- What is escaped in a fragment. -/
def fragmentSpecial : List Char := [' ', '"', '<', '>', '`']

/-- What is escaped in a path. -/
def pathSpecial : List Char := fragmentSpecial ++ ['#', '?', '\x7b', '\x7d']

/-- What is escaped in a name or a password. -/
def credentialSpecial : List Char :=
  pathSpecial ++ ['/', ':', ';', '=', '@', '[', '\\', ']', '^', '|']

/-- What is escaped in a query. -/
def querySpecial : List Char := [' ', '"', '#', '<', '>']

def hexValue? (c : Char) : Option Nat :=
  if c.isDigit then some (c.toNat - 48)
  else if 'a' ≤ c ∧ c ≤ 'f' then some (c.toNat - 87)
  else if 'A' ≤ c ∧ c ≤ 'F' then some (c.toNat - 55)
  else none

def hexByte? (high low : Char) : Option UInt8 := do
  some (.ofNat ((← hexValue? high) * 16 + (← hexValue? low)))

/-- The bytes of a text with its escapes replaced. -/
def unescaped : List Char → List UInt8
  | '%' :: high :: low :: rest =>
      match hexByte? high low with
      | some byte => byte :: unescaped rest
      | none => Utf8.encode "%" ++ unescaped (high :: low :: rest)
  | c :: rest => Utf8.encode (String.ofList [c]) ++ unescaped rest
  | [] => []
termination_by text => text.length

/-- The text whose bytes another one gives when its escapes are replaced. -/
def unescapedText? (text : List Char) : Option String :=
  String.fromUTF8? ⟨(unescaped text).toArray⟩

end DesktopAgent.Url
