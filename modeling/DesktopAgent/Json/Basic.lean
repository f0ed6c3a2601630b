import DesktopAgent.Double.Basic

/-!
JSON values.

Numbers are integers of 64 bits, signed or not, or doubles. The members of an object are a list in
the order of their keys, each key once; `Json.ofMembers` brings any list into that form.
-/

namespace DesktopAgent

/-- A JSON number: a whole number from -2^63 up to below 2^64, or a double. -/
inductive Json.Number where
  | integer (value : Int)
  | double (value : Double)
deriving DecidableEq, Repr

inductive Json where
  | null
  | boolean (value : Bool)
  | number (value : Json.Number)
  | string (text : String)
  | array (items : List Json)
  | object (members : List (String × Json))
deriving BEq, Repr

namespace Json

def members? : Json → Option (List (String × Json))
  | .object members => some members
  | _ => none

def text? : Json → Option String
  | .string text => some text
  | _ => none

def boolean? : Json → Option Bool
  | .boolean value => some value
  | _ => none

def lookup (key : String) : List (String × Json) → Option Json
  | [] => none
  | (name, value) :: rest => if name = key then some value else lookup key rest

/-- The text that a key has among members; none when the key is absent or its value no string. -/
def lookupText (key : String) (members : List (String × Json)) : Option String :=
  (lookup key members).bind text?

/-- The members of a value other than an object are none. -/
def get? (value : Json) (key : String) : Option Json :=
  value.members?.bind (lookup key)

def int (value : Int) : Json := .number (.integer value)

def nat (value : Nat) : Json := .number (.integer value)

def strings (texts : List String) : Json := .array (texts.map .string)

def insert (key : String) (value : Json) : List (String × Json) → List (String × Json)
  | [] => [(key, value)]
  | (name, old) :: rest =>
      if key < name then (key, value) :: (name, old) :: rest
      else if key = name then (key, value) :: rest
      else (name, old) :: insert key value rest

theorem lookup_insert (key name : String) (value : Json) (members : List (String × Json)) :
    lookup name (insert key value members) =
      if key = name then some value else lookup name members := by
  induction members with
  | nil => rfl
  | cons member rest inductionHypothesis =>
      obtain ⟨first, old⟩ := member
      unfold insert
      by_cases before : key < first
      · rw [if_pos before, lookup]
      · rw [if_neg before]
        by_cases same : key = first
        · rw [if_pos same, lookup, lookup, ← same]
          by_cases isName : key = name
          · simp only [isName, if_true]
          · simp only [isName, if_false]
        · rw [if_neg same, lookup, lookup, inductionHypothesis]
          by_cases isName : first = name
          · have other : key ≠ name := fun equality => same (equality.trans isName.symm)
            simp only [isName, if_true, other, if_false]
          · simp only [isName, if_false]

/-- Members of other keys do not count for a key. -/
theorem lookup_foldl_insert_of_absent
    {name : String} {members : List (String × Json)}
    (absent : ∀ member ∈ members, member.1 ≠ name) :
    ∀ sorted : List (String × Json),
      lookup name (members.foldl (fun sorted member => insert member.1 member.2 sorted) sorted) =
        lookup name sorted := by
  induction members with
  | nil => exact fun _ => rfl
  | cons member rest inductionHypothesis =>
      intro sorted
      have others : ∀ later ∈ rest, later.1 ≠ name :=
        fun later isLater => absent later (List.mem_cons_of_mem member isLater)
      rw [List.foldl_cons, inductionHypothesis others, lookup_insert,
        if_neg (absent member List.mem_cons_self)]

/-- The object of these members, of which the last one of each key counts. -/
def ofMembers (members : List (String × Json)) : Json :=
  .object (members.foldl (fun sorted member => insert member.1 member.2 sorted) [])

end Json

end DesktopAgent
