import DesktopAgent.Json.Printer

/-!
Why a JSON value is not the wire form of something, and how that is said.
-/

namespace DesktopAgent.Wire

open DesktopAgent.Text

inductive Found where
  | null
  | boolean (value : Bool)
  | integer (value : Int)
  | double (value : Double)
  | string (text : String)
  | sequence
  | map
  | unitVariant
deriving DecidableEq, Repr

namespace Found

def ofJson : Json → Found
  | .null => .null
  | .boolean value => .boolean value
  | .number (.integer value) => .integer value
  | .number (.double value) => .double value
  | .string text => .string text
  | .array _ => .sequence
  | .object _ => .map

/-- How the kind is named in a message. -/
def describe : Found → String
  | .null => "null"
  | .boolean value => "boolean `" ++ (if value then "true" else "false") ++ "`"
  | .integer value => "integer `" ++ Numeral.text value ++ "`"
  | .double value => "floating point `" ++ String.ofList value.render ++ "`"
  | .string text => "string " ++ quoted text
  | .sequence => "sequence"
  | .map => "map"
  | .unitVariant => "unit variant"

end Found

inductive Expectation where
  | string
  | integer (name : String)
  | sequence
  | unit
  | struct (name : String)
  | structVariantOf (type variant : String)
  | tagged (name : String)
  | variantName
  | variantIndex (count : Nat)
  | stringOrMap
  | singleKeyMap
  | newtypeVariant
  | structVariant
  | fewerItems
  | itemsInSequence (count : Nat)
  | withElements (whole : Expectation) (count : Nat)
deriving DecidableEq, Repr

/-- A count with its noun in the singular or the plural. -/
def elements (count : Nat) : String :=
  Numeral.text count ++ (if count = 1 then " element" else " elements")

def Expectation.describe : Expectation → String
  | .string => "a string"
  | .integer name => name
  | .sequence => "a sequence"
  | .unit => "unit"
  | .struct name => "struct " ++ name
  | .structVariantOf type variant => "struct variant " ++ type ++ "::" ++ variant
  | .tagged name => "internally tagged enum " ++ name
  | .variantName => "variant identifier"
  | .variantIndex count => "variant index 0 <= i < " ++ Numeral.text count
  | .stringOrMap => "string or map"
  | .singleKeyMap => "map with a single key"
  | .newtypeVariant => "newtype variant"
  | .structVariant => "struct variant"
  | .fewerItems => "fewer elements in array"
  | .itemsInSequence count => elements count ++ " in sequence"
  | .withElements whole count => whole.describe ++ " with " ++ elements count

inductive DecodeError where
  | wrongType (found : Found) (expected : Expectation)
  | wrongValue (found : Found) (expected : Expectation)
  | wrongLength (length : Nat) (expected : Expectation)
  | missingField (name : String)
  | repeatedField (name : String)
  | unknownVariant (name : String) (known : List String)
  | notABlock (found : Json)
  | blockWithoutText (field : String)
  | imageWithoutSource
  | imageSource (error : DecodeError)
deriving Repr

def backquoted (name : String) : String := "`" ++ name ++ "`"

def alternatives : List String → String
  | [] => "there are no variants"
  | [name] => "expected " ++ backquoted name
  | [first, second] => "expected " ++ backquoted first ++ " or " ++ backquoted second
  | names => "expected one of " ++ ", ".intercalate (names.map backquoted)

def DecodeError.message : DecodeError → String
  | .wrongType found expected =>
      "invalid type: " ++ found.describe ++ ", expected " ++ expected.describe
  | .wrongValue found expected =>
      "invalid value: " ++ found.describe ++ ", expected " ++ expected.describe
  | .wrongLength length expected =>
      "invalid length " ++ Numeral.text length ++ ", expected " ++ expected.describe
  | .missingField name => "missing field " ++ backquoted name
  | .repeatedField name => "duplicate field " ++ backquoted name
  | .unknownVariant name known =>
      "unknown variant " ++ backquoted name ++ ", " ++ alternatives known
  | .notABlock found => "content block must be an object, got " ++ found.compact
  | .blockWithoutText field => "content block missing string field " ++ backquoted field
  | .imageWithoutSource => "image block missing source"
  | .imageSource error => "image source: " ++ error.message

end DesktopAgent.Wire
