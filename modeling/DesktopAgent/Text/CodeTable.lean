import DesktopAgent.Text.Parts

/-!
Tables of code points.

A set of code points is a list of ranges. A mapping is written as lines of entries with spaces
between them: a number and a colon say which code point the next entry is for; a point passes over a
code point; numbers joined by plus signs are the text for a code point; two numbers with a minus
sign between them are the texts for as many code points, each a single character. All numbers are
hexadecimal.
-/

namespace DesktopAgent.Text

def inRanges (ranges : Array (Nat × Nat)) (point : Nat) : Bool :=
  ranges.any fun range => range.1 ≤ point && point ≤ range.2

/-- A mapping of code points to texts. -/
abbrev CodeTable := List (Nat × List Char)

namespace CodeTable

/-- The text of a character, if the mapping has one. -/
def lookup? (table : CodeTable) (c : Char) : Option (List Char) :=
  (table.find? fun entry => entry.1 = c.toNat).map (·.2)

def digitValue (c : Char) : Nat :=
  if c.isDigit then c.toNat - 48 else c.toNat - 55

def number (digits : List Char) : Nat :=
  digits.foldl (fun value c => value * 16 + digitValue c) 0

def charsBetween (first last : Nat) : List Char :=
  (List.range (last + 1 - first)).map fun offset => Char.ofNat (first + offset)

def textsOf (entry : List Char) : List (List Char) :=
  match parts (· = '-') entry with
  | [first, last] => (charsBetween (number first) (number last)).map fun c => [c]
  | _ => [(parts (· = '+') entry).map fun digits => Char.ofNat (number digits)]

/-- The mapping of entries, of which the next one is for the code point `point`. -/
def ofEntries (point : Nat) : List (List Char) → CodeTable
  | [] => []
  | entry :: rest =>
      if entry = ['.'] then ofEntries (point + 1) rest
      else if entry.getLast? = some ':' then ofEntries (number entry.dropLast) rest
      else
        let texts := textsOf entry
        (List.range' point texts.length).zip texts ++ ofEntries (point + texts.length) rest

def read (lines : List String) : CodeTable :=
  ofEntries 0 (lines.flatMap fun line => parts (· = ' ') line.toList)

end CodeTable

end DesktopAgent.Text
