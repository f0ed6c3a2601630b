/-!
Shell scripts and how they are read.

A script is a row of commands, commands are made of words, and a word is a row of pieces, of which
some stand for values. A script is read line by line, so that an alias that one line sets is known
on the next one. The text of an alias is read in place of its name.
-/

namespace DesktopAgent.Rehearsal.Shell

mutual

/-- A piece of a word. Blanks and marks of patterns mean nothing in a piece that is quoted. -/
inductive Piece where
  | letters (text : List Char) (isQuoted : Bool)
  | parameter (name : List Char) (use : Use) (isQuoted : Bool)
  | calculation (expression : List Piece) (isQuoted : Bool)
  | output (body : Command) (isQuoted : Bool)

/-- How the value of a parameter is used: as it is; its length; another text if it is not set, or if
it is empty; or without a part that fits a pattern. -/
inductive Use where
  | value
  | length
  | instead (sign : Char) (alsoIfEmpty : Bool) (text : List Piece)
  | without (atEnd longest : Bool) (pattern : List Piece)

inductive Redirect where
  | toward (channel : Nat) (operator : String) (target : List Piece)

/-- A command. One without commands inside has a line, the variables that are set for it, its words
and its redirections. -/
inductive Command where
  | nothing
  | simple (line : Nat) (settings : List (String × List Piece)) (words : List (List Piece))
      (redirects : List Redirect)
  | redirected (redirects : List Redirect) (body : Command)
  | sequence (first second : Command)
  | both (first second : Command)
  | either (first second : Command)
  | pipe (first second : Command)
  | negated (body : Command)
  | apart (body : Command)
  | choice (condition body otherwise : Command)
  | loop (goal : Bool) (condition body : Command)
  | each (name : String) (words : List (List Piece)) (body : Command)
  | select (subject : List Piece) (arms : List (List (List Piece) × Command))

end

abbrev Word := List Piece

/-- Whether a redirection is one of the input. -/
def Redirect.leadsInput : Redirect → Bool
  | .toward _ operator _ => operator = "<"

def Command.isNothing : Command → Bool
  | .nothing => true
  | _ => false

def isNameStart (c : Char) : Bool := c.isAlpha || c = '_'

def isNameChar (c : Char) : Bool := c.isAlphanum || c = '_'

/-- Whether a character is the whole name of a parameter. -/
def isSpecial (c : Char) : Bool := ['$', '?', '#', '@', '*', '!', '-'].contains c || c.isDigit

def endsWord (c : Char) : Bool :=
  [' ', '\t', '\n', '<', '>', '(', ')', ';', '&', '|'].contains c

/-- What is wrong with a script, and on which line. -/
structure Problem where
  line : Nat
  reason : String
deriving DecidableEq, Repr

/-- A reader of scripts: the characters before it, its line, and the aliases. -/
structure Reader where
  rest : List Char
  line : Nat
  aliases : List (String × String)
deriving DecidableEq, Repr

abbrev Reading := StateT Reader (Except Problem)

namespace Reading

def fail {α : Type} (reason : String) : Reading α := do
  throw ⟨(← get).line, reason⟩

def rest : Reading (List Char) := return (← get).rest

/-- Passes over some characters. -/
def skip (count : Nat) : Reading Unit :=
  modify fun reader =>
    { reader with
      rest := reader.rest.drop count
      line := reader.line + (reader.rest.take count).count '\n' }

/-- Passes over the characters up to the first one that does not pass a test, and gives them. -/
def takeWhile (test : Char → Bool) : Reading (List Char) := do
  let taken := (← rest).takeWhile test
  skip taken.length
  return taken

/-- How many characters blanks and comments take before the next word, where ends of lines count as
blanks if `mayBreak`. -/
def blankCount (mayBreak : Bool) : List Char → Nat
  | '\\' :: '\n' :: others => blankCount mayBreak others + 2
  | '#' :: others => commentCount others + 1
  | c :: others =>
      if c = ' ' || c = '\t' || (mayBreak && c = '\n') then blankCount mayBreak others + 1 else 0
  | [] => 0
where
  /-- How many characters a comment and what follows it take. -/
  commentCount : List Char → Nat
    | [] => 0
    | '\n' :: others => if mayBreak then blankCount mayBreak others + 1 else 0
    | _ :: others => commentCount others + 1

def skipBlanks (mayBreak : Bool) : Reading Unit := do
  skip (blankCount mayBreak (← rest))

/-- The characters up to the end of the word that comes next. -/
def nextWord : Reading String := return String.ofList ((← rest).takeWhile (!endsWord ·))

/-- The sign that comes next, if one does. -/
def nextSign? : Reading (Option String) := do
  match ← rest with
  | ';' :: ';' :: _ => return some ";;"
  | '&' :: '&' :: _ => return some "&&"
  | '|' :: '|' :: _ => return some "||"
  | c :: _ => return if endsWord c then some (String.ofList [c]) else none
  | [] => return none

/-- How messages call what comes next. -/
def nextShown : Reading String := do
  match ← nextSign?, ← rest with
  | some "\n", _ => return "newline"
  | some "<", _ | some ">", _ => return "redirection"
  | some sign, _ => return "\"" ++ sign ++ "\""
  | none, [] => return "end of file"
  | none, _ => return "\"" ++ (← nextWord) ++ "\""

/-- Fails because of what comes next, where something else may be expected. -/
def failUnexpected {α : Type} (expected : Option String) : Reading α := do
  let expecting := expected.elim "" fun text => " (expecting \"" ++ text ++ "\")"
  fail ((← nextShown) ++ " unexpected" ++ expecting)

def expect (text : String) : Reading Unit := do
  skipBlanks true
  let isNext := (← nextSign?) = some text || (← nextWord) = text
  if isNext then skip text.length else failUnexpected (some text)

end Reading

/-- What a stretch of a word stands in: in nothing, between quotation marks, between the braces of a
parameter, or in a calculation, where parentheses may be open. -/
inductive Stretch where
  | word
  | quoted
  | braces (isQuoted : Bool)
  | calculation (depth : Nat)
deriving DecidableEq, Repr

namespace Stretch

def isQuoted : Stretch → Bool
  | .word => false
  | .braces isQuoted => isQuoted
  | .quoted | .calculation _ => true

/-- The stretch after a character of it. -/
def after (c : Char) : Stretch → Stretch
  | .calculation depth =>
      .calculation (if c = '(' then depth + 1 else if c = ')' then depth - 1 else depth)
  | stretch => stretch

/-- How many characters end a stretch, if a text begins with them. -/
def closing? (stretch : Stretch) (text : List Char) : Option Nat :=
  match stretch, text with
  | .word, [] => some 0
  | .word, c :: _ => if endsWord c then some 0 else none
  | .quoted, '"' :: _ => some 1
  | .braces _, '\x7d' :: _ => some 1
  | .calculation 0, ')' :: ')' :: _ => some 2
  | _, _ => none

/-- What is wrong if a script ends within a stretch. -/
def unclosed : Stretch → String
  | .word | .quoted => "Unterminated quoted string"
  | .braces _ => "Missing '\x7d'"
  | .calculation _ => "Missing '))'"

end Stretch

namespace Reading

def parameterName (isBraced : Bool) : Reading (List Char) := do
  match ← rest with
  | c :: _ =>
      if isNameStart c then takeWhile isNameChar
      else if c.isDigit && isBraced then takeWhile Char.isDigit
      else if isSpecial c then do
        skip 1
        return [c]
      else return []
  | [] => return []

/-- The setting with which a text begins: the name of a variable and a sign. -/
def settingName? (text : List Char) : Option (List Char) :=
  let name := text.takeWhile isNameChar
  if name.head?.any isNameStart && text[name.length]? = some '=' then some name else none

/-- The channel and the operator of a redirection with which a text begins, and how many characters
it takes. -/
def redirection? (text : List Char) : Option (Nat × String × Nat) :=
  let digits := text.takeWhile Char.isDigit
  let number (usual : Nat) : Nat := digits.head?.elim usual fun c => c.toNat - 48
  match text.drop digits.length with
  | '>' :: '>' :: _ => some (number 1, ">>", digits.length + 2)
  | '>' :: '&' :: _ => some (number 1, ">&", digits.length + 2)
  | '>' :: _ => some (number 1, ">", digits.length + 1)
  | '<' :: _ => some (number 0, "<", digits.length + 1)
  | _ => none

/-- Reads two characters of which the first is a backslash. -/
def escaped (isQuoted : Bool) (c : Char) : Reading Word := do
  skip 2
  let isActive := ['\\', '$', '`', '"', '\x7d'].contains c
  if c = '\n' then return []
  else return [.letters (if isQuoted && !isActive then ['\\', c] else [c]) true]

def singleQuoted : Reading Word := do
  skip 1
  let text ← takeWhile (· ≠ '\'')
  if (← rest).isEmpty then fail Stretch.quoted.unclosed
  skip 1
  return [.letters text true]

mutual

/-- Reads the pieces of a word up to the end of a stretch of it. -/
def pieces : (fuel : Nat) → Stretch → Reading Word
  | 0, _ => fail "Word too long"
  | fuel + 1, stretch => do
      let text ← rest
      match stretch.closing? text, text with
      | some count, _ => do
          skip count
          return []
      | none, [] => fail stretch.unclosed
      | none, c :: _ => do
          let first ← piece fuel stretch
          return first ++ (← pieces fuel (stretch.after c))

/-- Reads what a word goes on with: pieces between quotation marks or one piece. -/
def piece : (fuel : Nat) → Stretch → Reading Word
  | 0, _ => fail "Word too long"
  | fuel + 1, stretch => do
      let isQuoted := stretch.isQuoted
      match ← rest with
      | '\\' :: c :: _ => escaped isQuoted c
      | '"' :: _ => do
          skip 1
          let inner ← pieces fuel .quoted
          return if inner.isEmpty then [.letters [] true] else inner
      | '$' :: '(' :: '(' :: _ => do
          skip 3
          return [.calculation (← pieces fuel (.calculation 0)) isQuoted]
      | '$' :: '(' :: _ => do
          skip 2
          let body ← commands fuel true
          expect ")"
          return [.output body isQuoted]
      | '`' :: _ => do
          skip 1
          let inner ← takeWhile (· ≠ '`')
          if (← rest).isEmpty then fail "EOF in backquote substitution"
          let outer ← get
          set { outer with rest := inner }
          let body ← commands fuel true
          set { outer with rest := outer.rest.drop 1 }
          return [.output body isQuoted]
      | '$' :: '\x7b' :: _ => do
          skip 2
          return [← braced fuel isQuoted]
      | '$' :: _ => do
          skip 1
          let name ← parameterName false
          return [if name.isEmpty then .letters ['$'] isQuoted else .parameter name .value isQuoted]
      | c :: _ =>
          if c = '\'' && !isQuoted then singleQuoted
          else do
            skip 1
            return [.letters [c] isQuoted]
      | [] => return []

def braced : (fuel : Nat) → (isQuoted : Bool) → Reading Piece
  | 0, _ => fail "Word too long"
  | fuel + 1, isQuoted => do
      let isMeasured := (← rest).head? = some '#' && (← rest)[1]?.any (· ≠ '\x7d')
      if isMeasured then skip 1
      let name ← parameterName true
      let withText (count : Nat) (use : Word → Use) (isQuotedText : Bool) : Reading Piece := do
        skip count
        return .parameter name (use (← pieces fuel (.braces isQuotedText))) isQuoted
      match ← rest with
      | '\x7d' :: _ => do
          skip 1
          return .parameter name (if isMeasured then .length else .value) isQuoted
      | '%' :: '%' :: _ => withText 2 (.without true true) false
      | '%' :: _ => withText 1 (.without true false) false
      | '#' :: '#' :: _ => withText 2 (.without false true) false
      | '#' :: _ => withText 1 (.without false false) false
      | ':' :: sign :: _ => withText 2 (.instead sign true) isQuoted
      | sign :: _ => withText 1 (.instead sign false) isQuoted
      | [] => fail (Stretch.braces isQuoted).unclosed

/-- Reads commands up to what ends them, which is the end of a line unless they stand within a
command. -/
def commands : (fuel : Nat) → (isWithin : Bool) → Reading Command
  | 0, _ => fail "Script too long"
  | fuel + 1, isWithin => do
      skipBlanks isWithin
      let word ← nextWord
      let isOver := ["do", "done", "elif", "else", "esac", "fi", "then", "\x7d"].contains word
      let sign ← nextSign?
      let isEnd := sign = some ")" || sign = some ";;" || sign = some "\n"
      if isOver || isEnd || (← rest).isEmpty then
        return .nothing
      else
        let first ← chain fuel
        skipBlanks false
        let sign ← nextSign?
        if sign = some ";" || (isWithin && sign = some "\n") then do
          skip 1
          return .sequence first (← commands fuel isWithin)
        else return first

/-- Reads commands each of which depends on those before it. -/
def chain : (fuel : Nat) → Reading Command
  | 0 => fail "Script too long"
  | fuel + 1 => do links fuel (← pipeline fuel)

/-- Reads the commands of a chain after those that have been read. -/
def links : (fuel : Nat) → (before : Command) → Reading Command
  | 0, _ => fail "Script too long"
  | fuel + 1, before => do
      skipBlanks false
      match ← nextSign? with
      | some "&&" => do
          skip 2
          links fuel (.both before (← pipeline fuel))
      | some "||" => do
          skip 2
          links fuel (.either before (← pipeline fuel))
      | _ => return before

/-- Reads commands that pass on what they write, which may be negated as a whole. -/
def pipeline : (fuel : Nat) → Reading Command
  | 0 => fail "Script too long"
  | fuel + 1 => do
      skipBlanks true
      if (← nextWord) = "!" then do
        skip 1
        return .negated (← pipeline fuel)
      else
        let first ← command fuel []
        skipBlanks false
        if (← nextSign?) = some "|" then do
          skip 1
          return .pipe first (← pipeline fuel)
        else return first

def command : (fuel : Nat) → (used : List String) → Reading Command
  | 0, _ => fail "Script too long"
  | fuel + 1, used => do
      skipBlanks true
      let word ← nextWord
      let aliases := (← get).aliases.filter fun known => !used.contains known.1
      match aliases.lookup word, word with
      | some text, _ => do
          modify fun reader : Reader =>
            { reader with rest := text.toList ++ reader.rest.drop word.length }
          command fuel (word :: used)
      | none, "if" => do
          skip 2
          let choice ← choice fuel
          expect "fi"
          redirected fuel choice
      | none, "while" | none, "until" => do
          skip 5
          let condition ← commands fuel true
          redirected fuel (.loop (word = "while") condition (← body fuel "do" "done"))
      | none, "for" => do
          skip 3
          skipBlanks false
          let name ← takeWhile isNameChar
          expect "in"
          let words ← wordsInLine fuel
          redirected fuel (.each (String.ofList name) words (← body fuel "do" "done"))
      | none, "case" => do
          skip 4
          skipBlanks false
          let subject ← pieces fuel .word
          expect "in"
          redirected fuel (.select subject (← arms fuel))
      | none, "\x7b" => do redirected fuel (← body fuel "\x7b" "\x7d")
      | none, _ =>
          if (← nextSign?) = some "(" then do
            redirected fuel (.apart (← body fuel "(" ")"))
          else do
            let line := (← get).line
            let simple ← parts fuel (.simple line [] [] [])
            match simple with
            | .simple _ [] [] [] => failUnexpected none
            | _ => return simple

/-- Reads commands between two words. -/
def body : (fuel : Nat) → (opening closing : String) → Reading Command
  | 0, _, _ => fail "Script too long"
  | fuel + 1, opening, closing => do
      expect opening
      let body ← commands fuel true
      expect closing
      return body

/-- Reads a condition, what is done if it holds, and what is done otherwise. -/
def choice : (fuel : Nat) → Reading Command
  | 0 => fail "Script too long"
  | fuel + 1 => do
      let condition ← commands fuel true
      expect "then"
      let body ← commands fuel true
      match ← nextWord with
      | "elif" => do
          skip 4
          return .choice condition body (← choice fuel)
      | "else" => do
          skip 4
          return .choice condition body (← commands fuel true)
      | _ => return .choice condition body .nothing

/-- Reads the words up to the end of a line or of a command. -/
def wordsInLine : (fuel : Nat) → Reading (List Word)
  | 0 => fail "Script too long"
  | fuel + 1 => do
      skipBlanks false
      let sign ← nextSign?
      if sign = some ";" || sign = some "\n" then do
        skip 1
        return []
      else if sign.isSome || (← rest).isEmpty then failUnexpected none
      else
        let word ← pieces fuel .word
        return word :: (← wordsInLine fuel)

/-- Reads the arms of a selection and its end. -/
def arms : (fuel : Nat) → Reading (List (List Word × Command))
  | 0 => fail "Script too long"
  | fuel + 1 => do
      skipBlanks true
      if (← nextWord) = "esac" then do
        skip 4
        return []
      else
        if (← nextSign?) = some "(" then skip 1
        let patterns ← patterns fuel
        let body ← commands fuel true
        if (← nextSign?) = some ";;" then skip 2
        else if (← nextWord) ≠ "esac" then failUnexpected (some ";;")
        return (patterns, body) :: (← arms fuel)

def patterns : (fuel : Nat) → Reading (List Word)
  | 0 => fail "Script too long"
  | fuel + 1 => do
      skipBlanks false
      let pattern ← pieces fuel .word
      skipBlanks false
      match ← nextSign? with
      | some "|" => do
          skip 1
          return pattern :: (← patterns fuel)
      | some ")" => do
          skip 1
          return [pattern]
      | _ => failUnexpected (some ")")

def redirected : (fuel : Nat) → Command → Reading Command
  | 0, _ => fail "Script too long"
  | fuel + 1, body => do
      match ← parts fuel (.simple 0 [] [] []) with
      | .simple _ [] [] [] => return body
      | .simple _ [] [] redirects => return .redirected redirects body
      | _ => failUnexpected none

/-- Reads the settings, words and redirections of a command after those that have been read. -/
def parts : (fuel : Nat) → (before : Command) → Reading Command
  | fuel + 1, .simple line settings words redirects => do
      skipBlanks false
      let text ← rest
      match redirection? text, if words.isEmpty then settingName? text else none with
      | some (channel, operator, count), _ => do
          skip count
          skipBlanks false
          if (← nextSign?).isSome || (← rest).isEmpty then failUnexpected none
          let redirect := Redirect.toward channel operator (← pieces fuel .word)
          parts fuel (.simple line settings words (redirects ++ [redirect]))
      | none, some name => do
          skip (name.length + 1)
          let setting := (String.ofList name, ← pieces fuel .word)
          parts fuel (.simple line (settings ++ [setting]) words redirects)
      | none, none =>
          if text.isEmpty || (← nextSign?).isSome then return .simple line settings words redirects
          else do
            let word ← pieces fuel .word
            parts fuel (.simple line settings (words ++ [word]) redirects)
  | _, before => return before

end

end Reading

/-- How many steps the reading of a line takes at most. -/
def stepLimit : Nat := 1000000

/-- Reads the next line of a script, if there is one. -/
def readLine : Reading (Option Command) := do
  Reading.skipBlanks true
  if (← Reading.rest).isEmpty then return none
  else
    let command ← Reading.commands stepLimit false
    match ← Reading.rest with
    | [] => return some command
    | '\n' :: _ => do
        Reading.skip 1
        return some command
    | _ => Reading.failUnexpected none

end DesktopAgent.Rehearsal.Shell
