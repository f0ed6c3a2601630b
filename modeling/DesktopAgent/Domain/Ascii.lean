import DesktopAgent.Domain.Direction
import DesktopAgent.Domain.Joining
import DesktopAgent.Domain.Mapping
import DesktopAgent.Domain.Punycode
import DesktopAgent.Text.Composition

/-!
Domain names in ASCII.

A name is mapped and composed, and its labels are the parts between its points. A label that holds
other characters than ASCII is written as its Punycode after a mark of four characters; a label that
comes with the mark must stand for one that could have been written so. Labels may be empty and of
any length.
-/

namespace DesktopAgent.Domain

open DesktopAgent.Text

def mark : List Char := ['x', 'n', '-', '-']

def isAscii (text : List Char) : Bool := text.all Punycode.isBasic

def writtenLimit : Nat := 1000

def readLimit : Nat := 2000

/-- Whether a label that holds other characters than ASCII is one that a name may have. -/
def isLabel (label : List Char) : Bool :=
  label.length ≤ writtenLimit && !label.head?.any isMark && joinersStand [] label

/-- The label that a Punycode stands for. It is none when it holds nothing but ASCII or would not be
left as it is by mapping and composing. -/
def decoded? (punycode : List Char) : Option (List Char) := do
  if punycode.length > readLimit then none
  let label ← Punycode.decode? punycode
  if isAscii label || !label.all isKept || compose label ≠ label then none
  else some label

/-- A label as it is read and as it is written. -/
structure Label where
  shown : List Char
  written : List Char
deriving DecidableEq, Repr

/-- Reads a label that has been mapped and composed. -/
def Label.read? (text : List Char) : Option Label :=
  if mark.isPrefixOf text then
    (decoded? (text.drop mark.length)).bind fun label =>
      if isLabel label then some ⟨label, text⟩ else none
  else if isAscii text then some ⟨text, text⟩
  else if isLabel text then some ⟨text, mark ++ Punycode.encode text⟩
  else none

def labels? (name : List Char) : Option (List Label) := do
  let mapped ← name.mapM mapped?
  let labels ← (parts (· = '.') (compose mapped.flatten)).mapM Label.read?
  if labels.any (fun label => isReversing label.shown) &&
      !labels.all (fun label => hasOneDirection label.shown) then none
  else some labels

def toAscii? (name : List Char) : Option (List Char) :=
  (labels? name).map fun labels => joined '.' (labels.map (·.written))

end DesktopAgent.Domain
