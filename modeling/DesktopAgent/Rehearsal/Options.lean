/-!
Options of programs.

Options are letters after a hyphen, of which there may be several, or names after two hyphens. They
may stand between the other arguments unless the program ends them there; two hyphens alone end
them.
-/

namespace DesktopAgent.Rehearsal

/-- The options that a program knows: letters and the names that stand for them, and whether it
takes no options after its first other argument. -/
structure OptionTable where
  letters : List Char
  names : List (String × Char)
  endsEarly : Bool
deriving DecidableEq, Repr

def OptionTable.letter? (table : OptionTable) (name : String) : Option Char :=
  match table.names.lookup name, table.names.filter fun known => known.1.startsWith name with
  | some letter, _ => some letter
  | none, [known] => some known.2
  | none, _ => none

/-- What is wrong with an option: a letter or a name that is not known. -/
inductive OptionProblem where
  | letter (c : Char)
  | name (argument : String)
deriving DecidableEq, Repr

def OptionProblem.message : OptionProblem → String
  | .letter c => "invalid option -- '" ++ String.ofList [c] ++ "'"
  | .name argument => "unrecognized option '" ++ argument ++ "'"

/-- The options among arguments and the other ones, or what is wrong with an option. -/
def OptionTable.read (table : OptionTable) :
    List String → Except OptionProblem (List Char × List String)
  | [] => .ok ([], [])
  | argument :: rest =>
      match argument.toList with
      | ['-', '-'] => .ok ([], rest)
      | '-' :: '-' :: name =>
          match table.letter? (String.ofList name) with
          | some letter => do
              let (options, operands) ← table.read rest
              return (letter :: options, operands)
          | none => .error (.name argument)
      | '-' :: c :: letters =>
          match (c :: letters).find? fun letter => !table.letters.contains letter with
          | some letter => .error (.letter letter)
          | none => do
              let (options, operands) ← table.read rest
              return (c :: letters ++ options, operands)
      | _ =>
          if table.endsEarly then .ok ([], argument :: rest)
          else do
            let (options, operands) ← table.read rest
            return (options, argument :: operands)

end DesktopAgent.Rehearsal
