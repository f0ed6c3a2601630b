import DesktopAgent.Json.Basic
import DesktopAgent.Double.Shortest
import DesktopAgent.Text.Quoted

/-!
The compact text of a JSON value.

There is no space outside strings, and members stand in their order. A string escapes the quote, the
backslash and the characters below U+0020, and nothing else. Doubles have their shortest text.
-/

namespace DesktopAgent.Json

open DesktopAgent.Text

/-- How one character stands in a JSON string. -/
def escapedChar (c : Char) : List Char :=
  if c = '"' then ['\\', '"']
  else if c = '\\' then ['\\', '\\']
  else if c = '\x08' then ['\\', 'b']
  else if c = '\x0c' then ['\\', 'f']
  else if c = '\n' then ['\\', 'n']
  else if c = '\r' then ['\\', 'r']
  else if c = '\t' then ['\\', 't']
  else if c.toNat < 0x20 then
    let digits := hexadecimal c.toNat
    '\\' :: 'u' :: List.replicate (4 - digits.length) '0' ++ digits
  else [c]

def stringText (text : String) : List Char :=
  '"' :: (text.toList.flatMap escapedChar ++ ['"'])

def Number.render : Number → List Char
  | .integer value => Numeral.ofInt value
  | .double value => value.render

mutual

def render : Json → List Char
  | .null => "null".toList
  | .boolean true => "true".toList
  | .boolean false => "false".toList
  | .number value => value.render
  | .string text => stringText text
  | .array items => '[' :: (renderItems items ++ [']'])
  | .object members => '\x7b' :: (renderMembers members ++ ['\x7d'])

def renderItems : List Json → List Char
  | [] => []
  | [item] => render item
  | item :: rest => render item ++ ',' :: renderItems rest

def renderMembers : List (String × Json) → List Char
  | [] => []
  | [(key, value)] => stringText key ++ ':' :: render value
  | (key, value) :: rest => stringText key ++ ':' :: render value ++ ',' :: renderMembers rest

end

def compact (value : Json) : String :=
  String.ofList (render value)

end DesktopAgent.Json
