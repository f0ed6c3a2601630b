import DesktopAgent.Text.Octets

/-!
What programs leave, and the texts that they write.

A program leaves what it wrote and a status, zero for success. Names in messages are quoted as on a
machine whose locale knows ASCII alone: other bytes are named by their octal numbers. In some texts
a backslash begins an escape.
-/

namespace DesktopAgent.Rehearsal

open DesktopAgent.Text

/-- What a program wrote to which of its channels, its status, and how many milliseconds it took. -/
structure Finish where
  written : List (Nat × List UInt8)
  status : Nat
  duration : Nat
deriving DecidableEq, Repr

namespace Finish

def silent (status : Nat) : Finish := ⟨[], status, 0⟩

/-- A program that wrote bytes and succeeded. -/
def wrote (bytes : List UInt8) : Finish := ⟨[(1, bytes)], 0, 0⟩

def complained (message : String) (status : Nat) : Finish :=
  ⟨[(2, Octets.bytes (message ++ "\n"))], status, 0⟩

/-- One outcome after another; a failure of either is a failure. -/
def followedBy (first second : Finish) : Finish :=
  ⟨first.written ++ second.written, max first.status second.status,
    first.duration + second.duration⟩

def bytes (channel : Nat) (finish : Finish) : List UInt8 :=
  (finish.written.filter fun piece => piece.1 = channel).flatMap (·.2)

/-- An outcome whose complaints come before all that was written otherwise. -/
def complaintsFirst (finish : Finish) : Finish :=
  { finish with written := [(2, finish.bytes 2), (1, finish.bytes 1)] }

end Finish

def isShown (byte : UInt8) : Bool := 0x20 ≤ byte && byte < 0x7F

/-- The escape of a byte that is not shown: a letter, if there is one for it, or its octal number.
-/
def hiddenEscape (byte : UInt8) : List Char :=
  match ([7, 8, 9, 10, 11, 12, 13].zip ['a', 'b', 't', 'n', 'v', 'f', 'r']).lookup byte.toNat with
  | some letter => ['\\', letter]
  | none =>
      ['\\', Char.ofNat (48 + byte.toNat / 64), Char.ofNat (48 + byte.toNat / 8 % 8),
        Char.ofNat (48 + byte.toNat % 8)]

def quotedName (name : String) : String :=
  "'" ++ String.ofList ((Octets.bytes name).flatMap fun byte =>
    if !isShown byte then hiddenEscape byte
    else if byte = 0x27 || byte = 0x5C then ['\\', Char.ofNat byte.toNat]
    else [Char.ofNat byte.toNat]) ++ "'"

/-- The characters that a shell would not take literally. -/
def shellSpecial : List Char := " !\"$&()*;<=>?[\\^`|'".toList

/-- The rest of a name within quotes, of which `escaping` says that an escape is open. -/
def shellQuotedRest (escaping : Bool) : List UInt8 → List Char
  | [] => ['\'']
  | byte :: rest =>
      if isShown byte then
        let shown := if byte = 0x27 then "'\\''".toList else [Char.ofNat byte.toNat]
        (if escaping then ['\'', '\''] else []) ++ shown ++ shellQuotedRest false rest
      else
        let opening := if escaping then [] else ['\'', '$', '\'']
        opening ++ hiddenEscape byte ++ shellQuotedRest true rest

/-- A text as a shell would take it, where also the characters `special` need quotes. -/
def quotedFor (special : List Char) (text : String) : String :=
  let bytes := Octets.bytes text
  let isPlain := bytes.all isShown && !text.toList.any special.contains &&
    !(text.startsWith "~" || text.startsWith "#" || text = "\x7b" || text = "\x7d")
  let mayBeDouble := bytes.all isShown && text.toList.contains '\'' &&
    !text.toList.any ("\"$\\`!".toList).contains
  if text.isEmpty then "''"
  else if isPlain then text
  else if mayBeDouble then "\"" ++ text ++ "\""
  else String.ofList ('\'' :: shellQuotedRest false bytes)

/-- A text as a shell would take it. -/
def shellQuoted (text : String) : String := quotedFor shellSpecial text

/-- A name as a shell would take it. A colon needs quotes, because messages go on with one after a
name. -/
def shellName (name : String) : String := quotedFor (':' :: shellSpecial) name

/-- How escapes are written: whether a zero before an octal number counts as one of its three
digits, whether hexadecimal numbers are known, and whether they must have digits, in which case
those of characters are known as well. -/
structure EscapeStyle where
  zeroCounts : Bool
  knowsHexadecimal : Bool
  needsDigits : Bool
deriving DecidableEq, Repr

def valueOfDigits (base : Nat) (digit : Char → Nat) (digits : List Char) : UInt8 :=
  UInt8.ofNat (digits.foldl (fun value c => value * base + digit c) 0)

def isOctal (c : Char) : Bool := '0' ≤ c && c ≤ '7'

def digitValue (c : Char) : Nat :=
  if c.isDigit then c.toNat - 48 else c.toLower.toNat - 87

def isHexadecimal (c : Char) : Bool :=
  c.isDigit || ('a' ≤ c.toLower && c.toLower ≤ 'f')

def letterEscape? : Char → Option UInt8
  | 'a' => some 7
  | 'b' => some 8
  | 'e' => some 27
  | 'f' => some 12
  | 'n' => some 10
  | 'r' => some 13
  | 't' => some 9
  | 'v' => some 11
  | '\\' => some 92
  | _ => none

/-- What stands for the number of a character. Only those of ASCII are written. -/
def characterEscape (letter : Char) (digits : List Char) : List UInt8 :=
  let code := digits.foldl (fun value c => value * 16 + digitValue c) 0
  if code < 128 then [UInt8.ofNat code]
  else Octets.bytes (String.ofList ('\\' :: letter :: digits.map Char.toUpper))

/-- Whether the text after a backslash announces a number and has not enough digits. -/
def lacksDigits (style : EscapeStyle) (text : List Char) : Bool :=
  let digits := (text.drop 1).takeWhile isHexadecimal
  style.needsDigits &&
    match text.head? with
    | some 'x' => digits.isEmpty
    | some 'u' => digits.length < 4
    | some 'U' => digits.length < 8
    | _ => false

/-- What is said of an escape without digits. -/
def missingDigits : String := "missing hexadecimal number in escape"

/-- What stands for the text after a backslash, and how many characters of it that takes. -/
def readEscape (style : EscapeStyle) (text : List Char) : List UInt8 × Nat :=
  match text with
  | [] => ([92], 0)
  | c :: rest =>
      match letterEscape? c with
      | some byte => ([byte], 1)
      | none =>
          if isOctal c then
            if c = '0' && !style.zeroCounts then
              let digits := (rest.take 3).takeWhile isOctal
              ([valueOfDigits 8 digitValue digits], digits.length + 1)
            else
              let digits := (text.take 3).takeWhile isOctal
              ([valueOfDigits 8 digitValue digits], digits.length)
          else
            let digits := (rest.take 2).takeWhile isHexadecimal
            if c = 'x' && style.knowsHexadecimal && !digits.isEmpty then
              ([valueOfDigits 16 digitValue digits], digits.length + 1)
            else if style.needsDigits && (c = 'u' || c = 'U') then
              let count := if c = 'u' then 4 else 8
              (characterEscape c (rest.take count), count + 1)
            else ([92] ++ Octets.bytes (String.ofList [c]), 1)

/-- How a text with escapes goes on after it: as usual, not at all, or not because of a mistake. -/
inductive EscapeEnd where
  | usual
  | stopped
  | lacking
deriving DecidableEq, Repr

/-- The bytes of a text with its escapes replaced, and how it goes on after it. -/
def expandEscapes (style : EscapeStyle) : List Char → List UInt8 × EscapeEnd
  | [] => ([], .usual)
  | '\\' :: 'c' :: _ => ([], .stopped)
  | '\\' :: rest =>
      if lacksDigits style rest then ([], .lacking)
      else
        let (bytes, used) := readEscape style rest
        let (later, ending) := expandEscapes style (rest.drop used)
        (bytes ++ later, ending)
  | c :: rest =>
      let (later, ending) := expandEscapes style rest
      (Octets.bytes (String.ofList [c]) ++ later, ending)
termination_by text => text.length

end DesktopAgent.Rehearsal
