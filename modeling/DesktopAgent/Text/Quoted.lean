import DesktopAgent.Text.Printable

/-!
Texts in double quotes, for messages.

A quoted text is one line: quotes and backslashes get a backslash, the usual controls a letter, and
every other character that does not show itself is given by its code point in hexadecimal.
-/

namespace DesktopAgent.Text

def hexadecimal (n : Nat) : List Char :=
  Nat.toDigits 16 n

def quotedChar (c : Char) : List Char :=
  if c = '\x00' then ['\\', '0']
  else if c = '\t' then ['\\', 't']
  else if c = '\r' then ['\\', 'r']
  else if c = '\n' then ['\\', 'n']
  else if c = '\\' then ['\\', '\\']
  else if c = '"' then ['\\', '"']
  else if showsItself c then [c]
  else ['\\', 'u', '\x7b'] ++ hexadecimal c.toNat ++ ['\x7d']

def quoted (text : String) : String :=
  String.ofList (['"'] ++ text.toList.flatMap quotedChar ++ ['"'])

end DesktopAgent.Text
