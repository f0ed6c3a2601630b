/-!
Blank characters, trimming, and the fields of a line.

A character is blank when it has the Unicode property White_Space. `trim` takes the blanks off both
ends of a text; `fields` lists the longest stretches without a blank, in order.
-/

namespace DesktopAgent.Text

/-- The ranges of code points with the property White_Space. -/
def blankRanges : List (Nat × Nat) :=
  [(0x09, 0x0D), (0x20, 0x20), (0x85, 0x85), (0xA0, 0xA0), (0x1680, 0x1680), (0x2000, 0x200A),
    (0x2028, 0x2029), (0x202F, 0x202F), (0x205F, 0x205F), (0x3000, 0x3000)]

def isBlank (c : Char) : Bool :=
  blankRanges.any fun range => range.1 ≤ c.toNat && c.toNat ≤ range.2

/-- The text without the blanks at its two ends. -/
def trim (text : List Char) : List Char :=
  ((text.dropWhile isBlank).reverse.dropWhile isBlank).reverse

def trimmed (text : String) : String :=
  String.ofList (trim text.toList)

/-- Puts a finished field before the later ones; an empty stretch is no field. -/
def closeField (field : List Char) (later : List (List Char)) : List (List Char) :=
  if field.isEmpty then later else field :: later

/-- The stretch without a blank that the text begins with, and the fields after it. -/
def leadingField : List Char → List Char × List (List Char)
  | [] => ([], [])
  | c :: rest =>
      let (field, later) := leadingField rest
      if isBlank c then ([], closeField field later) else (c :: field, later)

/-- The longest stretches of the text without a blank, in order. -/
def fields (text : List Char) : List (List Char) :=
  closeField (leadingField text).1 (leadingField text).2

end DesktopAgent.Text
