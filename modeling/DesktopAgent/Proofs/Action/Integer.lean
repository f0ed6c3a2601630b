import DesktopAgent.Action.Input
import DesktopAgent.Proofs.Double.Rounding
import DesktopAgent.Proofs.Double.Value
import DesktopAgent.Proofs.Text.Blank
import DesktopAgent.Proofs.Text.Numeral

/-!
The integers in a tool input.

Every number spells an integer: its value, rounded toward zero and held within 64 bits. A string
spells one when it holds nothing but a numeral of 64 bits and blanks around it. Nothing else does.
-/

namespace DesktopAgent.Action

open DesktopAgent.Text

section

variable {ε α : Type} {result : Except ε α} {admitted : α → Prop} {fault : ε → Prop}

/-- A result that succeeds with exactly what is admitted and fails with exactly what is a fault. -/
structure Settles (result : Except ε α) (admitted : α → Prop) (fault : ε → Prop) : Prop where
  ok_iff : ∀ found, result = .ok found ↔ admitted found
  error_iff : ∀ problem, result = .error problem ↔ fault problem

/-- It is enough that something is admitted or a fault, and that the result is in accord with it. -/
theorem Settles.of_total
    (total : (∃ found, admitted found) ∨ ∃ problem, fault problem)
    (accepts : ∀ found, admitted found → result = .ok found)
    (refuses : ∀ problem, fault problem → result = .error problem) :
    Settles result admitted fault where
  ok_iff found := by
    refine ⟨?_, accepts found⟩
    intro succeeds
    rcases total with ⟨other, isAdmitted⟩ | ⟨problem, isFault⟩
    · have same := accepts other isAdmitted
      rw [succeeds] at same
      cases same
      exact isAdmitted
    · have fails := refuses problem isFault
      rw [succeeds] at fails
      cases fails
  error_iff problem := by
    refine ⟨?_, refuses problem⟩
    intro fails
    rcases total with ⟨found, isAdmitted⟩ | ⟨other, isFault⟩
    · have succeeds := accepts found isAdmitted
      rw [fails] at succeeds
      cases succeeds
    · have same := refuses other isFault
      rw [fails] at same
      cases same
      exact isFault

theorem Settles.total (settles : Settles result admitted fault) :
    (∃ found, admitted found) ∨ ∃ problem, fault problem := by
  cases outcome : result with
  | ok found => exact Or.inl ⟨found, (settles.ok_iff found).mp outcome⟩
  | error problem => exact Or.inr ⟨problem, (settles.error_iff problem).mp outcome⟩

end

/-- A value that a tool input may use for an integer. -/
inductive Spells : Json → Int64 → Prop
  | number {number : Json.Number} {n : Int64} :
      n.toInt = max leastInteger (min greatestInteger (towardZero number.value)) →
      Spells (.number number) n
  | numeral {text : String} {before numeral after : List Char} {n : Int64} :
      text.toList = before ++ numeral ++ after →
      (∀ c ∈ before, isBlank c = true) → (∀ c ∈ after, isBlank c = true) →
      Numeral.Denotes numeral n.toInt →
      Spells (.string text) n

theorem toInt_clamp (value : Int) :
    (clamp value).toInt = max leastInteger (min greatestInteger value) := by
  have low : leastInteger ≤ max leastInteger (min greatestInteger value) := Int.le_max_left _ _
  have high : max leastInteger (min greatestInteger value) ≤ greatestInteger :=
    Int.max_le.mpr ⟨by decide, Int.min_le_left _ _⟩
  exact Int64.toInt_ofInt_of_le low (Int.lt_of_le_of_lt high (by decide))

/-- What is beyond 64 bits stays beyond them when it is rounded, so holding it there gives the same.
-/
theorem clamp_roundedWhole
    {value : Int} (beyond : ¬ (leastInteger ≤ value ∧ value ≤ greatestInteger)) :
    clamp (roundedWhole value) = clamp value := by
  unfold roundedWhole
  cases rounds : Double.ofInt? value with
  | none => rfl
  | some d =>
      have held : max leastInteger (min greatestInteger d.truncate) =
          max leastInteger (min greatestInteger value) := by
        unfold leastInteger greatestInteger at beyond ⊢
        -- Rounding keeps 2^63 and its negative, so both numbers lie beyond the same end.
        by_cases above : 2 ^ 63 ≤ value
        · have stays := Double.le_truncate_of_ofInt? above rounds
          omega
        · have stays := Double.truncate_le_of_ofInt? (k := 63) (by omega) rounds
          omega
      exact congrArg Int64.ofInt held

theorem wholePart_integer (value : Int) : wholePart (.integer value) = clamp value := by
  rw [wholePart]
  by_cases range : leastInteger ≤ value ∧ value ≤ greatestInteger
  · rw [if_pos range, clamp, Int.min_eq_right range.2, Int.max_eq_right range.1]
  · rw [if_neg range, clamp_roundedWhole range]

theorem toInt_wholePart (number : Json.Number) :
    (wholePart number).toInt =
      max leastInteger (min greatestInteger (towardZero number.value)) := by
  cases number with
  | integer value =>
      have whole : towardZero (Json.Number.integer value).value = value := towardZero_intCast value
      rw [wholePart_integer, whole]
      exact toInt_clamp value
  | double d =>
      have whole : towardZero (Json.Number.double d).value = d.truncate := d.truncate_eq.symm
      rw [whole]
      exact toInt_clamp d.truncate

theorem spells_number_iff {number : Json.Number} {n : Int64} :
    Spells (.number number) n ↔ wholePart number = n := by
  have same : n.toInt = (wholePart number).toInt ↔ wholePart number = n :=
    Int64.toInt_inj.trans eq_comm
  rw [← same, toInt_wholePart]
  constructor
  · rintro (⟨converted⟩ | _)
    exact converted
  · exact .number

theorem solid_of_denotes
    {numeral : List Char} {n : Int} (denotes : Numeral.Denotes numeral n) :
    ∀ c ∈ numeral, isBlank c = false := by
  intro c member
  rcases denotes.mem member with rfl | rfl | isDigit
  · decide
  · decide
  · exact isBlank_of_isDigit isDigit

/-- A string that holds the numeral of an integer of any size, among blanks if any. -/
inductive Carries : String → Int → Prop
  | numeral {text : String} {before numeral after : List Char} {n : Int} :
      text.toList = before ++ numeral ++ after →
      (∀ c ∈ before, isBlank c = true) → (∀ c ∈ after, isBlank c = true) →
      Numeral.Denotes numeral n →
      Carries text n

theorem carries_iff {text : String} {n : Int} :
    Carries text n ↔ Numeral.Denotes (trim text.toList) n := by
  constructor
  · rintro ⟨parts, blanksBefore, blanksAfter, denotes⟩
    rw [parts, trim_of_solid blanksBefore blanksAfter denotes.ne_nil (solid_of_denotes denotes)]
    exact denotes
  · intro denotes
    obtain ⟨before, after, parts, blanksBefore, blanksAfter⟩ := exists_eq_append_trim text.toList
    exact .numeral parts blanksBefore blanksAfter denotes

theorem spells_iff_carries {text : String} {n : Int64} :
    Spells (.string text) n ↔ Carries text n.toInt := by
  constructor
  · rintro (_ | ⟨parts, blanksBefore, blanksAfter, denotes⟩)
    exact .numeral parts blanksBefore blanksAfter denotes
  · rintro ⟨parts, blanksBefore, blanksAfter, denotes⟩
    exact .numeral parts blanksBefore blanksAfter denotes

theorem spells_string_iff {text : String} {n : Int64} :
    Spells (.string text) n ↔ Numeral.toInt64? (trim text.toList) = some n := by
  rw [Numeral.toInt64?_eq_some_iff, spells_iff_carries, carries_iff]

/-- An integer is read from what spells it, and everything else is refused as no integer. -/
theorem readInteger_settles (parameter : String) (value : Json) :
    Settles (readInteger parameter value) (Spells value) fun problem =>
      (∀ n, ¬ Spells value n) ∧ problem = .invalidParameter parameter (.notAnInteger value) := by
  have refused (nothing : ∀ n, ¬ Spells value n)
      (fails : readInteger parameter value =
        .error (.invalidParameter parameter (.notAnInteger value))) :
      Settles (readInteger parameter value) (Spells value) fun problem =>
        (∀ n, ¬ Spells value n) ∧
          problem = .invalidParameter parameter (.notAnInteger value) := by
    refine .of_total (Or.inr ⟨_, nothing, rfl⟩) ?_ ?_
    · intro n spells
      exact absurd spells (nothing n)
    · rintro _ ⟨_, rfl⟩
      exact fails
  cases value with
  | number number =>
      refine .of_total (Or.inl ⟨_, spells_number_iff.mpr rfl⟩) ?_ ?_
      · intro n spells
        rw [← spells_number_iff.mp spells]
        rfl
      · intro problem isFault
        exact absurd (spells_number_iff.mpr rfl) (isFault.1 _)
  | string text =>
      cases read : Numeral.toInt64? (trim text.toList) with
      | some n =>
          refine .of_total (Or.inl ⟨n, spells_string_iff.mpr read⟩) ?_ ?_
          · intro other spells
            simp only [readInteger, spells_string_iff.mp spells]
          · intro problem isFault
            exact absurd (spells_string_iff.mpr read) (isFault.1 n)
      | none =>
          refine refused ?_ ?_
          · intro n spells
            rw [spells_string_iff.mp spells] at read
            cases read
          · simp only [readInteger, read]
  | null | boolean _ | array _ | object _ => exact refused nofun rfl

end DesktopAgent.Action
