import DesktopAgent.Action.Basic
import DesktopAgent.Action.Pointer
import DesktopAgent.Proofs.Text.Blank
import DesktopAgent.Proofs.Text.Numeral
import Mathlib.Data.List.Induction

/-!
Reports of the pointer's place.

For each component the last field that begins with its mark counts, whatever the fields before it
are: the position is stated when both of these fields go on with an integer of 64 bits, and by no
other report. So a place is read back from any report in which its two components are the only
fields of their marks.
-/

namespace DesktopAgent.Pointer

open DesktopAgent.Text

/-- Trimming a report does not change the position that it states. -/
theorem position?_trimmed (report : String) : position? (trimmed report) = position? report := by
  unfold position? trimmed
  rw [String.toList_ofList, fields_trim]

/-- The line in which a place is reported. -/
def line (place : String × String) : String :=
  "x:" ++ place.1 ++ " y:" ++ place.2 ++ " screen:0 window:1"

theorem solid_numeral (n : Int) : ∀ c ∈ Numeral.ofInt n, isBlank c = false := by
  intro c member
  rcases Numeral.mem_ofInt member with rfl | isDigit
  · decide
  · exact isBlank_of_isDigit isDigit

/-- The component of a place as a field of its report. -/
theorem fields_component (name : Char) (solid : isBlank name = false) (n : Int) :
    fields (name :: ':' :: Numeral.ofInt n) = [name :: ':' :: Numeral.ofInt n] := by
  apply fields_of_solid (List.cons_ne_nil _ _)
  intro c member
  rcases List.mem_cons.mp member with rfl | among
  · exact solid
  · rcases List.mem_cons.mp among with rfl | inNumeral
    · decide
    · exact solid_numeral n c inNumeral

theorem toList_line (place : Coordinate) (ending : String) :
    (line place.numerals ++ ending).toList =
      ('x' :: ':' :: Numeral.ofInt place.x.toInt) ++ ' ' ::
        (('y' :: ':' :: Numeral.ofInt place.y.toInt) ++ ' ' ::
          ("screen:0 window:1".toList ++ ending.toList)) := by
  simp [line, Coordinate.numerals, Numeral.text]

/-- The position of a line that reports a place is that place, whatever blanks follow. -/
theorem position?_line
    (place : Coordinate) {ending : String} (blanks : ∀ c ∈ ending.toList, isBlank c = true) :
    position? (line place.numerals ++ ending) = some (place.x, place.y) := by
  have others : fields ("screen:0 window:1".toList ++ ending.toList) =
      ["screen:0".toList, "window:1".toList] := by
    rw [fields_append_blanks _ blanks]
    decide
  unfold position?
  rw [toList_line, fields_append_blank (by decide), fields_append_blank (by decide), others,
    fields_component 'x' (by decide), fields_component 'y' (by decide)]
  simp only [List.cons_append, List.nil_append, List.foldl_cons, List.foldl_nil, readField,
    Numeral.toInt64?_ofInt]
  rfl

/-- How the fields of the first component begin. -/
def xMark : List Char := ['x', ':']

/-- How the fields of the second component begin. -/
def yMark : List Char := ['y', ':']

/-- Whether a field begins with one of the marks. -/
def isMarked (word : List Char) : Bool := xMark.isPrefixOf word || yMark.isPrefixOf word

/-- The last of some words that begin with a mark goes on with `rest`. -/
def LastAfter (mark : List Char) (words : List (List Char)) (rest : List Char) : Prop :=
  (words.filter mark.isPrefixOf).getLast? = some (mark ++ rest)

theorem lastAfter_or_unmarked (mark : List Char) (words : List (List Char)) :
    (∃ rest, LastAfter mark words rest) ∨ words.filter mark.isPrefixOf = [] := by
  cases last : (words.filter mark.isPrefixOf).getLast? with
  | none => exact Or.inr (List.getLast?_eq_none_iff.mp last)
  | some word =>
      have isPrefix := (List.mem_filter.mp (List.mem_of_getLast? last)).2
      obtain ⟨rest, rfl⟩ := List.isPrefixOf_iff_prefix.mp isPrefix
      exact Or.inl ⟨rest, last⟩

/-- A component of the position that each field of a mark sets and no other field changes. -/
structure SetAfter (mark : List Char) (component : Position → Option Int64) : Prop where
  sets : ∀ (position : Position) (rest : List Char),
    component (readField position (mark ++ rest)) = Numeral.toInt64? rest
  keeps : ∀ (position : Position) (word : List Char), mark.isPrefixOf word = false →
    component (readField position word) = component position

theorem setAfter_x : SetAfter xMark Position.x where
  sets _ _ := rfl
  keeps position word other := by
    unfold readField
    split
    · simp [xMark] at other
    · rfl
    · rfl

theorem setAfter_y : SetAfter yMark Position.y where
  sets _ _ := rfl
  keeps position word other := by
    unfold readField
    split
    · rfl
    · simp [yMark] at other
    · rfl

namespace SetAfter

variable {mark : List Char} {component : Position → Option Int64}
  (isSet : SetAfter mark component) {words : List (List Char)} (start : Position)

include isSet

-- The induction takes words off at the end, since it is the last one of a mark that counts.
theorem foldl_of_lastAfter
    {rest : List Char} (last : LastAfter mark words rest) :
    component (words.foldl readField start) = Numeral.toInt64? rest := by
  induction words using List.reverseRecOn with
  | nil => cases last
  | append_singleton earlier word inductionHypothesis =>
      rw [LastAfter, List.filter_append] at last
      rw [List.foldl_append, List.foldl_cons, List.foldl_nil]
      cases begins : mark.isPrefixOf word with
      | true =>
          rw [List.filter_cons_of_pos begins, List.filter_nil, List.getLast?_concat] at last
          rw [Option.some.inj last, isSet.sets]
      | false =>
          rw [List.filter_cons_of_neg (ne_true_of_eq_false begins), List.filter_nil,
            List.append_nil] at last
          rw [isSet.keeps _ word begins]
          exact inductionHypothesis last

theorem foldl_of_unmarked (unmarked : words.filter mark.isPrefixOf = []) :
    component (words.foldl readField start) = component start := by
  induction words using List.reverseRecOn with
  | nil => rfl
  | append_singleton earlier word inductionHypothesis =>
      rw [List.filter_append, List.append_eq_nil_iff] at unmarked
      have begins : mark.isPrefixOf word = false :=
        eq_false_of_ne_true (List.filter_eq_nil_iff.mp unmarked.2 word List.mem_cons_self)
      rw [List.foldl_append, List.foldl_cons, List.foldl_nil, isSet.keeps _ word begins]
      exact inductionHypothesis unmarked.1

/-- From nothing, a component becomes what the last field of its mark says. -/
theorem foldl_eq_some_iff (unset : component start = none) {n : Int64} :
    component (words.foldl readField start) = some n ↔
      ∃ rest, LastAfter mark words rest ∧ Numeral.Denotes rest n.toInt := by
  constructor
  · intro found
    rcases lastAfter_or_unmarked mark words with ⟨rest, last⟩ | unmarked
    · rw [isSet.foldl_of_lastAfter start last] at found
      exact ⟨rest, last, Numeral.toInt64?_eq_some_iff.mp found⟩
    · rw [isSet.foldl_of_unmarked start unmarked, unset] at found
      cases found
  · rintro ⟨rest, last, denotes⟩
    rw [isSet.foldl_of_lastAfter start last]
    exact Numeral.toInt64?_eq_some_iff.mpr denotes

end SetAfter

variable {report : String} {words : List (List Char)} {a b : Int64}

theorem position?_eq_some_iff_foldl :
    position? report = some (a, b) ↔
      ((fields report.toList).foldl readField ⟨none, none⟩).x = some a ∧
        ((fields report.toList).foldl readField ⟨none, none⟩).y = some b := by
  unfold position?
  generalize (fields report.toList).foldl readField ⟨none, none⟩ = position
  rcases position with ⟨_ | x, _ | y⟩ <;> simp

theorem position?_eq_some_iff (separated : Separated report.toList words) :
    position? report = some (a, b) ↔
      (∃ rest, LastAfter xMark words rest ∧ Numeral.Denotes rest a.toInt) ∧
        ∃ rest, LastAfter yMark words rest ∧ Numeral.Denotes rest b.toInt := by
  rw [position?_eq_some_iff_foldl, separated.fields_eq,
    setAfter_x.foldl_eq_some_iff ⟨none, none⟩ rfl, setAfter_y.foldl_eq_some_iff ⟨none, none⟩ rfl]

theorem LastAfter.unique {mark first second : List Char}
    (last : LastAfter mark words first) (other : LastAfter mark words second) :
    first = second :=
  List.append_cancel_left (Option.some.inj (last.symm.trans other))

/-- The last field of a mark must go on with an integer, even after one that does. -/
theorem position?_eq_none_of_lastAfter
    {mark rest : List Char} (separated : Separated report.toList words)
    (isMark : mark = xMark ∨ mark = yMark) (last : LastAfter mark words rest)
    (noInteger : ∀ n : Int64, ¬ Numeral.Denotes rest n.toInt) : position? report = none := by
  refine Option.eq_none_iff_forall_ne_some.mpr ?_
  rintro ⟨a, b⟩ states
  obtain ⟨⟨x, lastX, denotesX⟩, y, lastY, denotesY⟩ := (position?_eq_some_iff separated).mp states
  rcases isMark with rfl | rfl
  · exact noInteger a (last.unique lastX ▸ denotesX)
  · exact noInteger b (last.unique lastY ▸ denotesY)

/-- A field that is the only one of its mark among the marked fields is the last one. -/
theorem lastAfter_of_perm
    {mark rest other : List Char} (isMark : ∀ word, mark.isPrefixOf word → isMarked word)
    (foreign : mark.isPrefixOf other = false)
    (marked : (words.filter isMarked).Perm [mark ++ rest, other]) :
    LastAfter mark words rest := by
  have among : words.filter mark.isPrefixOf = (words.filter isMarked).filter mark.isPrefixOf := by
    rw [List.filter_filter]
    refine List.filter_congr fun word _ => ?_
    cases begins : mark.isPrefixOf word with
    | true => simp [isMark word begins]
    | false => rfl
  have begins : mark.isPrefixOf (mark ++ rest) = true :=
    List.isPrefixOf_iff_prefix.mpr (List.prefix_append mark rest)
  have alone : (words.filter mark.isPrefixOf).Perm [mark ++ rest] := by
    rw [among]
    simpa [begins, foreign] using marked.filter mark.isPrefixOf
  rw [LastAfter, List.perm_singleton.mp alone]
  rfl

/-- A report states a position exactly when the last field of each mark goes on with an integer of
64 bits; these are then its components. Where one does not, there is no position, whatever stands
before it. A place comes back from every report in which its components are the only fields that
begin with a mark, in either order, whatever the other fields and the blanks are. -/
theorem position_is_last_of_each_mark :
    (∀ (report : String) (a b : Int64), position? report = some (a, b) ↔
      ∃ words x y, Separated report.toList words ∧
        LastAfter xMark words x ∧ Numeral.Denotes x a.toInt ∧
        LastAfter yMark words y ∧ Numeral.Denotes y b.toInt) ∧
    (∀ (report : String) (words : List (List Char)) (mark rest : List Char),
      Separated report.toList words → mark = xMark ∨ mark = yMark →
      LastAfter mark words rest → (∀ n : Int64, ¬ Numeral.Denotes rest n.toInt) →
      position? report = none) ∧
    (∀ (report : String) (words : List (List Char)) (a b : Int64),
      Separated report.toList words →
      (words.filter isMarked).Perm
        [xMark ++ Numeral.ofInt a.toInt, yMark ++ Numeral.ofInt b.toInt] →
      position? report = some (a, b)) := by
  refine ⟨?_, ?_, ?_⟩
  · intro report a b
    constructor
    · intro states
      have separated := separated_fields report.toList
      obtain ⟨⟨x, lastX, denotesX⟩, y, lastY, denotesY⟩ :=
        (position?_eq_some_iff separated).mp states
      exact ⟨_, x, y, separated, lastX, denotesX, lastY, denotesY⟩
    · rintro ⟨words, x, y, separated, lastX, denotesX, lastY, denotesY⟩
      exact (position?_eq_some_iff separated).mpr ⟨⟨x, lastX, denotesX⟩, y, lastY, denotesY⟩
  · intro report words mark rest separated isMark last noInteger
    exact position?_eq_none_of_lastAfter separated isMark last noInteger
  · intro report words a b separated marked
    have turned := marked.trans (List.Perm.swap _ _ [])
    have lastX : LastAfter xMark words (Numeral.ofInt a.toInt) :=
      lastAfter_of_perm (fun word begins => by simp [isMarked, begins]) rfl marked
    have lastY : LastAfter yMark words (Numeral.ofInt b.toInt) :=
      lastAfter_of_perm (fun word begins => by simp [isMarked, begins]) rfl turned
    exact (position?_eq_some_iff separated).mpr
      ⟨⟨_, lastX, Numeral.denotes_ofInt a.toInt⟩, _, lastY, Numeral.denotes_ofInt b.toInt⟩

/-- A report with the second component first, blanks of several kinds, and fields that only look
like those of a mark. -/
def turnedReport : String :=
  " y:-9223372036854775808\u3000at xy: \u0085 x:9223372036854775807\u00a0"

/-- A report whose first component is stated, and then again by a number beyond 64 bits. -/
def spoiledReport : String := "x:1 y:2 x:9223372036854775808 screen:0"

theorem position_of_turnedReport :
    Separated turnedReport.toList
      ["y:-9223372036854775808".toList, "at".toList, "xy:".toList,
        "x:9223372036854775807".toList] ∧
    position? turnedReport = some (9223372036854775807, -9223372036854775808) ∧
    Separated spoiledReport.toList
      ["x:1".toList, "y:2".toList, "x:9223372036854775808".toList, "screen:0".toList] ∧
    position? spoiledReport = none := by
  obtain ⟨_, spoils, comesBack⟩ := position_is_last_of_each_mark
  have turned : Separated turnedReport.toList
      ["y:-9223372036854775808".toList, "at".toList, "xy:".toList,
        "x:9223372036854775807".toList] :=
    fields_eq_iff.mp (by decide +kernel)
  have spoiled : Separated spoiledReport.toList
      ["x:1".toList, "y:2".toList, "x:9223372036854775808".toList, "screen:0".toList] :=
    fields_eq_iff.mp (by decide +kernel)
  have marked : ["y:-9223372036854775808".toList, "at".toList, "xy:".toList,
      "x:9223372036854775807".toList].filter isMarked =
        [yMark ++ Numeral.ofInt (-9223372036854775808 : Int64).toInt,
          xMark ++ Numeral.ofInt (9223372036854775807 : Int64).toInt] := by
    decide +kernel
  have last : LastAfter xMark
      ["x:1".toList, "y:2".toList, "x:9223372036854775808".toList, "screen:0".toList]
      "9223372036854775808".toList := by
    unfold LastAfter
    decide +kernel
  refine ⟨turned, ?_, spoiled, ?_⟩
  · refine comesBack _ _ _ _ turned ?_
    rw [marked]
    exact List.Perm.swap _ _ []
  · refine spoils _ _ xMark _ spoiled (Or.inl rfl) last ?_
    intro n denotes
    have read := Numeral.toInt64?_eq_some_iff.mpr denotes
    have unread : Numeral.toInt64? "9223372036854775808".toList = none := by decide +kernel
    rw [unread] at read
    cases read

end DesktopAgent.Pointer
