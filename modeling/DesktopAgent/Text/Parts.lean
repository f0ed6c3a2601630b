/-!
The parts of a text between marks.

There is one part more than there are marks, and parts may be empty.
-/

namespace DesktopAgent.Text

/-- Puts a character in front of the first part. -/
def extendFirst (c : Char) : List (List Char) → List (List Char)
  | [] => [[c]]
  | first :: others => (c :: first) :: others

/-- The parts of a text between the characters that are marks. -/
def parts (isMark : Char → Bool) : List Char → List (List Char)
  | [] => [[]]
  | c :: rest =>
      if isMark c then [] :: parts isMark rest else extendFirst c (parts isMark rest)

/-- Parts with a mark between each two of them. -/
def joined (mark : Char) (texts : List (List Char)) : List Char :=
  [mark].intercalate texts

end DesktopAgent.Text
