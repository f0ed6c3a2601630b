import DesktopAgent.Rehearsal.Shell.Calculation
import DesktopAgent.Rehearsal.Shell.Pattern
import DesktopAgent.Rehearsal.Shell.State

/-!
What the words of shell scripts stand for.

A word is first a row of atoms. Atoms are then split into fields, or they are read as one text or as
a pattern.
-/

namespace DesktopAgent.Rehearsal.Shell

open DesktopAgent.Text

/-- A part of what a word stands for: a character; a gap between fields; or a mark that there is a
field, even if it has no characters. -/
inductive Atom where
  | letter (c : Char) (isProtected : Bool)
  | gap
  | mark
deriving DecidableEq, Repr

/-- The atoms of a value, which is split at its blanks where words are split. -/
def valueAtoms (splits isQuoted : Bool) (value : List Char) : List Atom :=
  if isQuoted then .mark :: value.map (.letter · true)
  else value.map fun c => if splits && isSumBlank c then .gap else .letter c false

def fieldsOf (atoms : List Atom) : List String :=
  let isGap (atom : Atom) : Bool := atom = .gap
  let fields := (atoms.splitOnP isGap).filter fun field => !field.isEmpty
  fields.map fun field => String.ofList (field.filterMap fun atom =>
    match atom with
    | .letter c _ => some c
    | .gap | .mark => none)

/-- The characters of atoms and whether they are protected. -/
def patternOf (atoms : List Atom) : List PatternLetter :=
  atoms.filterMap fun atom =>
    match atom with
    | .letter c isProtected => some ⟨c, isProtected⟩
    | .gap | .mark => none

def textOf (atoms : List Atom) : List Char := (patternOf atoms).map (·.letter)

/-- The value of a parameter that is one text. -/
def State.parameter? (name : List Char) (state : State) : Option String :=
  match name with
  | ['?'] => some (Numeral.text state.status)
  | ['$'] => some (Numeral.text state.process)
  | ['#'] => some (Numeral.text state.parameters.length)
  | ['*'] | ['@'] =>
      if state.parameters.isEmpty then none else some (" ".intercalate state.parameters)
  | _ =>
      if !name.all Char.isDigit then state.bindings.lookup (String.ofList name)
      else if Numeral.value name = 0 then some state.name
      else state.parameters[Numeral.value name - 1]?

def State.calculated (state : State) (name : List Char) : Except SumProblem Int :=
  let text := (state.bindings.lookup (String.ofList name)).getD ""
  (numberOfText? text.toList).elim (.error (.badNumber text)) .ok

def calculateIn (text : List Char) : Act (List Char) := do
  match calculate (← get).calculated text with
  | .ok (value, settings) => do
      for (name, value) in settings do
        modify (State.set (String.ofList name) (Numeral.text value))
      return Numeral.ofInt value
  | .error .overflow => throw (.killed 8)
  | .error problem => Act.fail (problem.message (String.ofList text))

/-- What commands write, without the ends of its last lines. -/
def outputText (bytes : List UInt8) : List Char :=
  let kept := ((bytes.filter (· ≠ 0)).reverse.dropWhile (· = 10)).reverse
  (Octets.ofBytes kept).toList

/-- The atoms that a parameter stands for, where `expand` expands the text of its use. -/
def useAtoms (expand : Bool → Word → Act (List Atom)) (splits : Bool) (name : List Char) (use : Use)
    (isQuoted : Bool) : Act (List Atom) := do
  let state ← get
  let value? := state.parameter? name
  let whole : List Atom := (value?.map fun value => valueAtoms splits isQuoted value.toList).getD
    (if isQuoted && name ≠ ['@'] then [.mark] else [])
  match use with
  | .value =>
      if splits && isQuoted && name = ['@'] then
        return List.intercalate [.gap]
          (state.parameters.map fun value => valueAtoms splits true value.toList)
      else return whole
  | .length => return valueAtoms splits isQuoted (Numeral.ofNat (value?.getD "").length)
  | .without atEnd longest pattern => do
      let pattern := patternOf (← expand false pattern)
      return valueAtoms splits isQuoted
        (withoutFitting atEnd longest pattern (value?.getD "").toList)
  | .instead sign alsoIfEmpty text => do
      let isThere := value?.any fun value => !(alsoIfEmpty && value.isEmpty)
      match sign, isThere with
      | '+', true | '-', false => expand splits text
      | '+', false => return []
      | '-', true | '=', true | '?', true => return whole
      | '=', false => do
          let value := textOf (← expand false text)
          modify (State.set (String.ofList name) (String.ofList value))
          return valueAtoms splits isQuoted value
      | '?', false => do
          let message := textOf (← expand false text)
          let usual := "parameter not set" ++ if alsoIfEmpty then " or null" else ""
          Act.fail (String.ofList name ++ ": " ++
            if message.isEmpty then usual else String.ofList message)
      | _, _ => Act.fail "Bad substitution"

/-- The atoms that a word stands for, which is split into fields if it `splits`, where `run` runs
commands and expansions go `fuel` deep at most. -/
def wordAtoms (run : Command → Act Unit) : (fuel : Nat) → (splits : Bool) → Word → Act (List Atom)
  | 0, _, _ => Act.exhausted
  | fuel + 1, splits, word => do
      let expand := wordAtoms run fuel
      let atoms ← word.mapM fun piece : Piece =>
        match piece with
        | .letters text isQuoted =>
            let letters := text.map (Atom.letter · isQuoted)
            return if isQuoted then .mark :: letters else letters
        | .parameter name use isQuoted => useAtoms expand splits name use isQuoted
        | .calculation expression isQuoted => do
            let text := textOf (← expand false expression)
            return valueAtoms splits isQuoted (← calculateIn text)
        | .output body isQuoted => do
            let before ← get
            let text := outputText (← Act.outputOf (run body))
            modify fun state : State =>
              { state with status := before.status, outputStatus := state.status }
            return valueAtoms splits isQuoted text
      return atoms.flatten

end DesktopAgent.Rehearsal.Shell
