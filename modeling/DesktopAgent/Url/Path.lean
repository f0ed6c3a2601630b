import DesktopAgent.Text.Parts
import DesktopAgent.Url.Escape

/-!
Paths of URLs.

A path is a row of segments. A segment that is a point stands for where it is, one of two points for
the segment above, which it takes away unless that begins with a drive. The first segment that is
left of a file's path may name a drive; the path of a file begins with a single slash.
-/

namespace DesktopAgent.Url

open DesktopAgent.Text

def isIgnored (c : Char) : Bool := c = '\t' || c = '\n' || c = '\r'

def visible (text : List Char) : List Char := text.filter fun c => !isIgnored c

/-- Whether a segment stands for where it is. -/
def isSingleDot (segment : List Char) : Bool :=
  [".", "%2e"].contains (String.ofList (segment.map Char.toLower))

/-- Whether a segment stands for the one above. -/
def isDoubleDot (segment : List Char) : Bool :=
  ["..", ".%2e", "%2e.", "%2e%2e"].contains (String.ofList (segment.map Char.toLower))

/-- Whether a segment names a drive: a letter and a colon or a bar. -/
def isDrive : List Char → Bool
  | [letter, mark] => letter.isAlpha && (mark = ':' || mark = '|')
  | _ => false

/-- Whether a segment begins with a drive, which ends with the segment or before a backslash. -/
def beginsWithDrive : List Char → Bool
  | letter :: mark :: rest => isDrive [letter, mark] && rest.head?.all (· = '\\')
  | _ => false

/-- The segments that are left, in reverse order, when the last one is taken away. -/
def shortened : List (List Char) → List (List Char)
  | [] => []
  | last :: before => if beginsWithDrive last then last :: before else before

/-- Puts a segment after those before it, which are given in reverse order. What a segment with none
before it becomes is told by `root`. -/
def place (root : List Char → List (List Char)) (before : List (List Char))
    (segment : List Char) : List (List Char) :=
  let shown := visible segment
  if isDoubleDot shown then shortened before
  else if isSingleDot shown then before
  else if before.isEmpty then root segment
  else shown :: before

/-- Whether a path with a last segment ends in a slash because of it. -/
def isOpen (last : List Char) : Bool := isSingleDot (visible last) || isDoubleDot (visible last)

/-- Resolves dot segments. A path that ends in a dot segment ends in a slash. -/
def resolve (root : List Char → List (List Char)) (segments : List (List Char)) :
    List (List Char) :=
  let before := segments.foldl (place root) []
  (if segments.getLast?.any isOpen then [] :: before else before).reverse

def segmentsText (segments : List (List Char)) : List Char :=
  segments.flatMap fun segment => '/' :: escapeAll pathSpecial segment

def withoutSlash (isSlash : Char → Bool) (text : List Char) : List Char :=
  match text.dropWhile isIgnored with
  | [] => []
  | first :: rest => if isSlash first then rest else first :: rest

def readPath (isSlash : Char → Bool) (text : List Char) : String :=
  let segments := parts isSlash (withoutSlash isSlash text)
  String.ofList (segmentsText (resolve (fun first => [visible first]) segments))

/-- Whether a dropped character follows the first colon of a segment. -/
def breaksAfterColon (segment : List Char) : Bool :=
  (segment.dropWhile (· ≠ ':')).tail.head?.any isIgnored

/-- What the first segment of a file's path becomes, in reverse order. A drive is written with a
colon. What dropped characters keep apart from a drive is a segment of its own. -/
def fileRoot (segment : List Char) : List (List Char) :=
  match visible segment with
  | [letter, mark] => [[letter, if isDrive [letter, mark] then ':' else mark]]
  | letter :: ':' :: more =>
      if letter.isAlpha && breaksAfterColon segment then [more, [letter, ':']]
      else [letter :: ':' :: more]
  | shown => [shown]

/-- Whether the first segment that is left of a file's path names a drive; the segments before are
given in reverse order. -/
def namesDrive (before : List (List Char)) : List (List Char) → Bool
  | [] => false
  | segment :: rest =>
      (before.isEmpty && isDrive (visible segment)) ||
        namesDrive (place fileRoot before segment) rest

def fileText (segments : List (List Char)) : String :=
  String.ofList ('/' :: (segmentsText segments).dropWhile (· = '/'))

/-- Whether a character is a slash in a path of a scheme that takes both slashes. -/
def isEitherSlash (c : Char) : Bool := c = '/' || c = '\\'

/-- The path of a file, and whether it begins with a drive. -/
def readFilePath (text : List Char) : String × Bool :=
  let segments := parts isEitherSlash (withoutSlash isEitherSlash text)
  (fileText (resolve fileRoot segments), namesDrive [] segments)

/-- The path of a file that has no host. The slash that it begins with follows an empty segment. -/
def readLocalPath (text : List Char) : String :=
  fileText (resolve fileRoot (parts isEitherSlash text))

end DesktopAgent.Url
