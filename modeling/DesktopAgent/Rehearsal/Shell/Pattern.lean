/-!
Patterns of shell scripts.

A star stands for any text, a question mark for any character and a bracket for one of some
characters, which may be given one by one, by ranges or by classes; a character that is protected
stands for itself.
-/

namespace DesktopAgent.Rehearsal.Shell

/-- A character of a pattern: whether it stands for itself in any case. -/
structure PatternLetter where
  letter : Char
  isProtected : Bool
deriving DecidableEq, Repr

/-- Some characters of a bracket: those of a range or of a class. -/
inductive PatternGroup where
  | range (first last : Char)
  | named (name : String)
deriving DecidableEq, Repr

inductive PatternPart where
  | exactly (c : Char)
  | anyLetter
  | anyText
  | oneOf (isInverted : Bool) (groups : List PatternGroup)
deriving DecidableEq, Repr

def classNames : List String :=
  ["alnum", "cntrl", "lower", "space", "alpha", "digit", "print", "upper", "blank", "graph",
    "punct", "xdigit"]

def isInClass (name : String) (c : Char) : Bool :=
  let isGraph := '!' ≤ c && c ≤ '~'
  match name with
  | "alnum" => c.isAlphanum
  | "cntrl" => c < ' ' || c = '\x7f'
  | "lower" => c.isLower
  | "space" => c = ' ' || ('\t' ≤ c && c ≤ '\r')
  | "alpha" => c.isAlpha
  | "digit" => c.isDigit
  | "print" => isGraph || c = ' '
  | "upper" => c.isUpper
  | "blank" => c = ' ' || c = '\t'
  | "graph" => isGraph
  | "punct" => isGraph && !c.isAlphanum
  | "xdigit" => c.isDigit || ('a' ≤ c.toLower && c.toLower ≤ 'f')
  | _ => false

/-- The class that a text names after an opening bracket, and how many characters that takes. -/
def readClass? (text : List PatternLetter) : Option (String × Nat) :=
  (classNames.find? fun name =>
    ((":" ++ name ++ ":]").toList.map fun c => PatternLetter.mk c false).isPrefixOf text).map
      fun name => (name, name.length + 3)

/-- The groups of characters up to the end of a bracket, and the text after it, where `fuel` groups
are read at most. The first character does not end the bracket. -/
def readGroups? : (fuel : Nat) → (isFirst : Bool) → List PatternLetter →
    Option (List PatternGroup × List PatternLetter)
  | 0, _, _ | _, _, [] => none
  | _, false, ⟨']', false⟩ :: rest => some ([], rest)
  | fuel + 1, _, first :: rest =>
      let (group, after) : PatternGroup × List PatternLetter :=
        match if first = ⟨'[', false⟩ then readClass? rest else none, rest with
        | some (name, length), _ => (.named name, rest.drop length)
        | none, ⟨'-', false⟩ :: last :: others =>
            if last = ⟨']', false⟩ then (.range first.letter first.letter, rest)
            else (.range first.letter last.letter, others)
        | none, _ => (.range first.letter first.letter, rest)
      (readGroups? fuel false after).map fun (groups, rest) => (group :: groups, rest)

/-- The bracket whose text follows an opening mark, and the text after it. -/
def readBracket? (text : List PatternLetter) : Option (PatternPart × List PatternLetter) :=
  let isInverted := text.head? = some ⟨'!', false⟩ || text.head? = some ⟨'^', false⟩
  let members := if isInverted then text.drop 1 else text
  (readGroups? text.length true members).map fun (groups, rest) =>
    (.oneOf isInverted groups, rest)

/-- The parts of a pattern, in which `fuel` characters are read at most. -/
def patternPartsWithin : (fuel : Nat) → List PatternLetter → List PatternPart
  | 0, _ | _, [] => []
  | fuel + 1, ⟨'*', false⟩ :: rest => .anyText :: patternPartsWithin fuel rest
  | fuel + 1, ⟨'?', false⟩ :: rest => .anyLetter :: patternPartsWithin fuel rest
  | fuel + 1, ⟨'[', false⟩ :: rest =>
      match readBracket? rest with
      | some (part, rest) => part :: patternPartsWithin fuel rest
      | none => .exactly '[' :: patternPartsWithin fuel rest
  | fuel + 1, letter :: rest => .exactly letter.letter :: patternPartsWithin fuel rest

def patternParts (pattern : List PatternLetter) : List PatternPart :=
  patternPartsWithin pattern.length pattern

def PatternGroup.contains (group : PatternGroup) (c : Char) : Bool :=
  match group with
  | .range first last => first ≤ c && c ≤ last
  | .named name => isInClass name c

/-- Whether a part that stands for one character stands for this one. -/
def PatternPart.admits (part : PatternPart) (c : Char) : Bool :=
  match part with
  | .exactly letter => c = letter
  | .anyLetter | .anyText => true
  | .oneOf isInverted groups => (groups.any fun group => group.contains c) != isInverted

def fitsParts : List PatternPart → List Char → Bool
  | [], text => text.isEmpty
  | .anyText :: rest, [] => fitsParts rest []
  | .anyText :: rest, c :: text =>
      fitsParts rest (c :: text) || fitsParts (.anyText :: rest) text
  | _ :: _, [] => false
  | part :: rest, c :: text => part.admits c && fitsParts rest text
termination_by parts text => parts.length + text.length

def fits (pattern : List PatternLetter) (text : List Char) : Bool :=
  fitsParts (patternParts pattern) text

/-- A text without a part at an end that fits a pattern: the longest one, or the shortest. -/
def withoutFitting (atEnd longest : Bool) (pattern : List PatternLetter) (text : List Char) :
    List Char :=
  let parts := patternParts pattern
  let upwards := List.range (text.length + 1)
  let counts := if longest then upwards.reverse else upwards
  if atEnd then
    match counts.find? fun count => fitsParts parts (text.drop (text.length - count)) with
    | some count => text.take (text.length - count)
    | none => text
  else
    match counts.find? fun count => fitsParts parts (text.take count) with
    | some count => text.drop count
    | none => text

end DesktopAgent.Rehearsal.Shell
