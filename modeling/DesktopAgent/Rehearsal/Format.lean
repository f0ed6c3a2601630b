import DesktopAgent.Rehearsal.Floating

/-!
Formatted writing.

A format is text with conversions, each of which takes an argument. It is written again while it
takes arguments and some are left. Programs that write formats differ in the escapes that they know
and in what they say of arguments that are no numbers.
-/

namespace DesktopAgent.Rehearsal

open DesktopAgent.Text

/-- How a program writes formats: its escapes, whether a quotation mark may be escaped and a `c`
tells to stop, and whether it is strict about flags, passes over marks of length and quotes
arguments; how exact its floating-point numbers are; what it says of a conversion that it does not
know or that has no kind, of an argument that is no number, of one that is a number only at its
beginning, of one that is too large, and of the text after a quoted character; and what of the
arguments that no conversion takes. -/
structure FormatStyle where
  escapes : EscapeStyle
  knowsQuote : Bool
  knowsStop : Bool
  isStrict : Bool
  exactness : Exactness
  unknown : String → String
  unfinished : String → String
  noNumber : String → String
  partialNumber : String → String
  outOfRange : String → String
  afterCharacter : String → Option String
  excess : String → Option String
  opening : String

inductive Measure where
  | number (value : Nat)
  | argument
deriving DecidableEq, Repr

/-- A conversion: its flags, the least width, the precision and the kind. -/
structure Conversion where
  flags : List Char
  width : Option Measure
  precision : Option Measure
  kind : Char
deriving DecidableEq, Repr

inductive FormatPiece where
  | literal (bytes : List UInt8)
  | conversion (conversion : Conversion)
  | unknown (text : List Char)
  | unfinished (text : List Char)
  | lacking
  | stop
deriving DecidableEq, Repr

def conversionFlags (style : FormatStyle) : List Char :=
  ['-', '+', ' ', '#', '0'] ++ if style.isStrict then ['\''] else []

def conversionKinds (style : FormatStyle) : List Char :=
  ['s', 'b', 'c', 'd', 'i', 'u', 'o', 'x', 'X'] ++ floatingKinds ++
    if style.isStrict then ['q'] else []

/-- Whether a kind of conversion may have flags and other parts, of which the text is given. -/
def fitsKind (style : FormatStyle) (kind : Char) (flags before : List Char) : Bool :=
  let excluded (flag : Char) (kinds : List Char) : Bool :=
    flags.contains flag && kinds.contains kind
  !style.isStrict ||
    !(excluded '\'' ['a', 'A', 'c', 'e', 'E', 'o', 's', 'x', 'X'] ||
      excluded '#' ['c', 'd', 'i', 's', 'u'] || excluded '0' ['c', 's'] ||
      (kind = 'c' && before.contains '.') || ((kind = 'b' || kind = 'q') && !before.isEmpty))

/-- A measure at the beginning of a text, and how many characters it takes. -/
def readMeasure (text : List Char) : Option Measure × Nat :=
  match text with
  | '*' :: _ => (some .argument, 1)
  | _ =>
      let digits := text.takeWhile Char.isDigit
      (if digits.isEmpty then none else some (.number (Numeral.value digits)), digits.length)

/-- The conversion whose text follows a percent sign, and how many characters it takes. -/
def readConversion (style : FormatStyle) (text : List Char) : FormatPiece × Nat :=
  let flags := text.takeWhile (conversionFlags style).contains
  let afterFlags := text.drop flags.length
  let (width, widthLength) := readMeasure afterFlags
  let afterWidth := afterFlags.drop widthLength
  let (precision, precisionLength) :=
    match afterWidth with
    | '.' :: rest =>
        let (measure, length) := readMeasure rest
        (some (measure.getD (.number 0)), length + 1)
    | _ => (none, 0)
  let measured := flags.length + widthLength + precisionLength
  let marks :=
    if style.isStrict then (text.drop measured).takeWhile ['l', 'L', 'h', 'j', 't', 'z'].contains
    else []
  let length := measured + marks.length
  match text[length]? with
  | some kind =>
      if (conversionKinds style).contains kind && fitsKind style kind flags (text.take length) then
        (.conversion ⟨flags, width, precision, kind⟩, length + 1)
      else (.unknown (text.take (length + 1)), length + 1)
  | none => (.unfinished text, length)

def formatPieces (style : FormatStyle) : List Char → List FormatPiece
  | [] => []
  | '%' :: '%' :: rest => .literal [37] :: formatPieces style rest
  | '%' :: rest =>
      let (piece, used) := readConversion style rest
      piece :: formatPieces style (rest.drop used)
  | '\\' :: rest =>
      if rest.head? = some 'c' && style.knowsStop then [.stop]
      else if rest.head? = some '"' && style.knowsQuote then
        .literal [34] :: formatPieces style (rest.drop 1)
      else if lacksDigits style.escapes rest then [.lacking]
      else
        let (bytes, used) := readEscape style.escapes rest
        .literal bytes :: formatPieces style (rest.drop used)
  | c :: rest => .literal (Octets.bytes (String.ofList [c])) :: formatPieces style rest
termination_by text => text.length

/-- A number that an argument begins with, the text after it, and whether it is that of a character.
-/
structure NumberArgument where
  value : Int
  isNumber : Bool
  isCharacter : Bool
  rest : List Char
deriving DecidableEq, Repr

/-- The digits of a number without a sign: octal after a zero and hexadecimal after `0x`. -/
def numberDigits (text : List Char) : Nat × List Char × List Char :=
  let hexadecimal := (text.drop 2).takeWhile isHexadecimal
  match text with
  | '0' :: x :: _ =>
      if (x = 'x' || x = 'X') && !hexadecimal.isEmpty then
        (16, hexadecimal, (text.drop 2).dropWhile isHexadecimal)
      else (8, text.takeWhile isOctal, text.dropWhile isOctal)
  | _ => (10, text.takeWhile Char.isDigit, text.dropWhile Char.isDigit)

/-- The number of the character after a quotation mark with which an argument begins, and what
follows it. A mark alone stands for no character, unless a program is strict. -/
def quotedCharacter? (style : FormatStyle) (argument : String) : Option (Nat × List Char) :=
  match Octets.bytes argument with
  | [] => none
  | [mark] => if (mark = 34 || mark = 39) && !style.isStrict then some (0, []) else none
  | mark :: byte :: rest =>
      if mark = 34 || mark = 39 then some (byte.toNat, (Octets.ofBytes rest).toList) else none

/-- Reads an argument as a number; after a quotation mark the number is that of a character. -/
def readNumber (style : FormatStyle) (argument : String) : NumberArgument :=
  match quotedCharacter? style argument with
  | some (value, rest) => ⟨value, true, true, rest⟩
  | none =>
      let text := argument.toList.dropWhile fun c => c = ' ' || ('\t' ≤ c && c ≤ '\r')
      let isNegative := text.head? = some '-'
      let unsigned := if isNegative || text.head? = some '+' then text.drop 1 else text
      let (base, digits, rest) := numberDigits unsigned
      let magnitude : Int :=
        digits.foldl (fun value c => value * base + digitValue c) (0 : Nat)
      ⟨if isNegative then -magnitude else magnitude, !digits.isEmpty, false, rest⟩

def numberLimits (isSigned : Bool) : Int × Int :=
  if isSigned then (-9223372036854775808, 9223372036854775807)
  else (-18446744073709551615, 18446744073709551615)

/-- What is said of an argument as a number: whether it begins with one that may be used, whether
that is out of range, whether it is that of a character, and what follows it. -/
def saidOf (style : FormatStyle) (argument : String) (isNumber isOut isCharacter : Bool)
    (rest : List Char) : Finish :=
  let said (message : String) : Finish := .complained message 1
  if argument.isEmpty then .silent 0
  else if !isNumber then said (style.noNumber argument)
  else if isOut && (style.isStrict || rest.isEmpty) then said (style.outOfRange argument)
  else if rest.isEmpty then .silent 0
  else if isCharacter then
    let message := style.afterCharacter (String.ofList rest)
    (message.map fun message => .complained message 0).getD (.silent 0)
  else said (style.partialNumber argument)

/-- The value of an argument as a whole number, and what is said of it. -/
def numberOf (style : FormatStyle) (isSigned : Bool) (argument : String) : Int × Finish :=
  let number := readNumber style argument
  let (least, greatest) := numberLimits isSigned
  let value := max least (min greatest number.value)
  let said := saidOf style argument number.isNumber (value ≠ number.value) number.isCharacter
    number.rest
  (if number.isNumber then value else 0, said)

/-- The value of an argument as a floating-point number, and what is said of it. -/
def floatingOf (style : FormatStyle) (argument : String) : Floating × Finish :=
  let number := readNumber style argument
  if number.isCharacter then
    (⟨false, (style.exactness.nearest number.value.toNat 1).1⟩,
      saidOf style argument true false true number.rest)
  else
    match readFloating? style.exactness argument.toList with
    | some text =>
        (text.number, saidOf style argument true text.isOutOfRange false text.rest)
    | none => (⟨false, .finite 0 0⟩, saidOf style argument false false false argument.toList)

/-- Pads bytes to a width, on the right if `isLeft`. -/
def padded (isLeft : Bool) (width : Nat) (bytes : List UInt8) : List UInt8 :=
  let padding := List.replicate (width - bytes.length) 32
  if isLeft then bytes ++ padding else padding ++ bytes

/-- A natural number in the base of a kind of conversion. -/
def kindDigits (kind : Char) (number : Nat) : List Char :=
  match kind with
  | 'o' => Nat.toDigits 8 number
  | 'x' => Nat.toDigits 16 number
  | 'X' => (Nat.toDigits 16 number).map Char.toUpper
  | _ => Nat.toDigits 10 number

def numberSign (conversion : Conversion) (number : Int) : List Char :=
  let has (flag : Char) : Bool := conversion.flags.contains flag
  match conversion.kind with
  | 'd' | 'i' =>
      if number < 0 then ['-'] else if has '+' then ['+'] else if has ' ' then [' '] else []
  | 'x' => if has '#' && number ≠ 0 then ['0', 'x'] else []
  | 'X' => if has '#' && number ≠ 0 then ['0', 'X'] else []
  | _ => []

def numberText (conversion : Conversion) (width : Nat) (precision : Option Nat) (number : Int) :
    List UInt8 :=
  let isSigned := conversion.kind = 'd' || conversion.kind = 'i'
  let magnitude := if isSigned then number.natAbs else (number % 18446744073709551616).toNat
  let plain :=
    if magnitude = 0 && precision = some 0 then [] else kindDigits conversion.kind magnitude
  let least :=
    if conversion.kind = 'o' && conversion.flags.contains '#' && plain.head? ≠ some '0' then
      max (precision.getD 1) (plain.length + 1)
    else precision.getD 1
  let digits := List.replicate (least - plain.length) '0' ++ plain
  let sign := numberSign conversion number
  let isLeft := conversion.flags.contains '-'
  let zeros :=
    if conversion.flags.contains '0' && !isLeft && precision.isNone then
      List.replicate (width - (sign.length + digits.length)) '0'
    else []
  padded isLeft width (Octets.bytes (String.ofList (sign ++ zeros ++ digits)))

/-- An argument as a conversion writes it, and how the format goes on after it. -/
def convert (style : FormatStyle) (conversion : Conversion) (width : Nat) (isLeft : Bool)
    (precision : Option Nat) (argument : String) : Finish × EscapeEnd :=
  let cut (bytes : List UInt8) : List UInt8 := (precision.map bytes.take).getD bytes
  match conversion.kind with
  | 's' => (.wrote (padded isLeft width (cut (Octets.bytes argument))), .usual)
  | 'b' =>
      let (bytes, ending) :=
        expandEscapes { style.escapes with zeroCounts := false } argument.toList
      (.wrote (padded isLeft width (cut bytes)), ending)
  | 'c' => (.wrote (padded isLeft width [(Octets.bytes argument).head?.getD 0]), .usual)
  | 'q' => (.wrote (Octets.bytes (shellQuoted argument)), .usual)
  | kind =>
      if floatingKinds.contains kind then
        let (value, said) := floatingOf style argument
        let text := floatingText style.exactness kind conversion.flags width precision value
        (said.followedBy (.wrote (Octets.bytes (String.ofList text))), .usual)
      else
        let (value, said) := numberOf style (kind = 'd' || kind = 'i') argument
        (said.followedBy (.wrote (numberText conversion width precision value)), .usual)

/-- The value of a measure, what is said of it, and the arguments that are left. -/
def measured (style : FormatStyle) (measure : Option Measure) (arguments : List String) :
    Option Int × Finish × List String :=
  match measure with
  | none => (none, .silent 0, arguments)
  | some (.number value) => (some value, .silent 0, arguments)
  | some .argument =>
      let (value, said) := numberOf style true (arguments.head?.getD "")
      (some value, said, arguments.tail)

/-- Writes the pieces of a format once: what was written, the arguments that are left, and whether
to stop. -/
def formatOnce (style : FormatStyle) :
    List FormatPiece → List String → Finish → Finish × List String × Bool
  | [], arguments, done => (done, arguments, false)
  | .literal bytes :: rest, arguments, done =>
      formatOnce style rest arguments (done.followedBy (.wrote bytes))
  | .conversion conversion :: rest, arguments, done =>
      let (width, saidOfWidth, arguments) := measured style conversion.width arguments
      let (precision, saidOfPrecision, arguments) := measured style conversion.precision arguments
      let isLeft := conversion.flags.contains '-' || (width.getD 0) < 0
      let flags := if isLeft then '-' :: conversion.flags else conversion.flags
      let (finish, ending) :=
        if conversion.kind = 'q' && arguments.isEmpty then (.silent 0, .usual)
        else
          convert style { conversion with flags := flags } (width.getD 0).natAbs isLeft
            ((precision.filter (0 ≤ ·)).map Int.toNat) (arguments.head?.getD "")
      let done := ((done.followedBy saidOfWidth).followedBy saidOfPrecision).followedBy finish
      match ending with
      | .usual => formatOnce style rest arguments.tail done
      | .stopped => (done, [], true)
      | .lacking => (done.followedBy (.complained (style.opening ++ missingDigits) 1), [], true)
  | .unknown text :: _, _, done =>
      (done.followedBy (.complained (style.unknown ("%" ++ String.ofList text)) 1), [], true)
  | .unfinished text :: _, _, done =>
      (done.followedBy (.complained (style.unfinished ("%" ++ String.ofList text)) 1), [], true)
  | .lacking :: _, _, done =>
      (done.followedBy (.complained (style.opening ++ missingDigits) 1), [], true)
  | .stop :: _, _, done => (done, [], true)

/-- Writes a format again while it takes arguments and some are left, `passes` times at most. -/
def formatAll (style : FormatStyle) (pieces : List FormatPiece) :
    (passes : Nat) → List String → Finish → Finish
  | 0, _, done => done
  | passes + 1, arguments, done =>
      match formatOnce style pieces arguments done with
      | (finish, _, true) | (finish, [], false) => finish
      | (finish, first :: rest, false) =>
          if (first :: rest).length < arguments.length then
            formatAll style pieces passes (first :: rest) finish
          else
            match style.excess first with
            | some message => finish.followedBy (.complained message 0)
            | none => finish

def writeFormat (style : FormatStyle) (format : String) (arguments : List String) : Finish :=
  formatAll style (formatPieces style format.toList) (arguments.length + 1) arguments (.silent 0)

end DesktopAgent.Rehearsal
