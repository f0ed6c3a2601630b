import DesktopAgent.Text.Blank

/-!
The fields of texts that are put together.

A blank separates: the fields of two texts with a blank between them are the fields of the first and
then those of the second. So blanks at the ends of a text do not count, and trimming keeps the
fields. The fields of a text are the words that blanks separate in it.
-/

namespace DesktopAgent.Text

theorem isBlank_of_isDigit {c : Char} (isDigit : c.isDigit = true) : isBlank c = false := by
  have solid : ∀ code < 58, 48 ≤ code →
      (blankRanges.any fun range => range.1 ≤ code && code ≤ range.2) = false := by
    decide
  simp only [Char.isDigit, Bool.and_eq_true, decide_eq_true_eq, ge_iff_le,
    UInt32.le_iff_toNat_le] at isDigit
  exact solid c.toNat (Nat.lt_succ_of_le isDigit.2) isDigit.1

theorem closeField_append (field : List Char) (first second : List (List Char)) :
    closeField field (first ++ second) = closeField field first ++ second := by
  unfold closeField
  split
  · rfl
  · rfl

theorem leadingField_append_blank
    {blank : Char} (isBlank : isBlank blank = true) (first second : List Char) :
    leadingField (first ++ blank :: second) =
      ((leadingField first).1, (leadingField first).2 ++ fields second) := by
  induction first with
  | nil => simp only [List.nil_append, leadingField, if_pos isBlank, fields]
  | cons c rest inductionHypothesis =>
      simp only [List.cons_append, leadingField, inductionHypothesis, closeField_append]
      split
      · rfl
      · rfl

theorem fields_append_blank
    {blank : Char} (isBlank : isBlank blank = true) (first second : List Char) :
    fields (first ++ blank :: second) = fields first ++ fields second := by
  rw [fields, leadingField_append_blank isBlank, closeField_append]
  rfl

theorem fields_blank_cons
    {blank : Char} (isBlank : isBlank blank = true) (text : List Char) :
    fields (blank :: text) = fields text :=
  fields_append_blank isBlank [] text

theorem fields_concat_blank
    {blank : Char} (isBlank : isBlank blank = true) (text : List Char) :
    fields (text ++ [blank]) = fields text := by
  rw [fields_append_blank isBlank]
  exact List.append_nil _

/-- A text without a blank is one field, unless it is empty. -/
theorem fields_of_solid
    {word : List Char} (notEmpty : word ≠ []) (solid : ∀ c ∈ word, isBlank c = false) :
    fields word = [word] := by
  have leads : leadingField word = (word, []) := by
    clear notEmpty
    induction word with
    | nil => rfl
    | cons c rest inductionHypothesis =>
        have later := inductionHypothesis fun other member =>
          solid other (List.mem_cons_of_mem c member)
        rw [leadingField, later, solid c List.mem_cons_self]
        rfl
  rw [fields, leads, closeField, if_neg (by simpa using notEmpty)]

/-- A text that consists of some words in their order, with blanks between them and perhaps more
before and after. -/
inductive Separated : List Char → List (List Char) → Prop
  | empty : Separated [] []
  | blank {c : Char} {text : List Char} {words : List (List Char)} :
      isBlank c = true → Separated text words → Separated (c :: text) words
  | final {word : List Char} :
      word ≠ [] → (∀ c ∈ word, isBlank c = false) → Separated word [word]
  | word {word text : List Char} {c : Char} {words : List (List Char)} :
      word ≠ [] → (∀ c ∈ word, isBlank c = false) → isBlank c = true → Separated text words →
      Separated (word ++ c :: text) (word :: words)

theorem Separated.fields_eq
    {text : List Char} {words : List (List Char)} (separated : Separated text words) :
    fields text = words := by
  induction separated with
  | empty => rfl
  | blank isBlank _ inductionHypothesis => rw [fields_blank_cons isBlank, inductionHypothesis]
  | final notEmpty solid => exact fields_of_solid notEmpty solid
  | word notEmpty solid isBlank _ inductionHypothesis =>
      rw [fields_append_blank isBlank, fields_of_solid notEmpty solid, inductionHypothesis]
      rfl

-- A blank at the front is passed over; otherwise the first word is taken off, and the blank that
-- ends it with it.
theorem separated_fields : ∀ text : List Char, Separated text (fields text)
  | [] => .empty
  | c :: rest => by
      cases blank : isBlank c with
      | true =>
          rw [fields_blank_cons blank]
          exact .blank blank (separated_fields rest)
      | false =>
          let solid := fun d => !isBlank d
          let word := (c :: rest).takeWhile solid
          have whole : word ++ (c :: rest).dropWhile solid = c :: rest :=
            List.takeWhile_append_dropWhile
          have notEmpty : word ≠ [] := by
            simp [word, solid, blank]
          have isSolid : ∀ d ∈ word, isBlank d = false := by
            intro d member
            simpa [solid] using List.all_eq_true.mp List.all_takeWhile d member
          cases remainder : (c :: rest).dropWhile solid with
          | nil =>
              rw [remainder, List.append_nil] at whole
              rw [← whole, fields_of_solid notEmpty isSolid]
              exact .final notEmpty isSolid
          | cons d later =>
              have isEnd : isBlank d = true := by
                have fails := List.head?_dropWhile_not solid (c :: rest)
                rw [remainder] at fails
                simpa [solid] using fails
              have shorter : later.length < (c :: rest).length := by
                rw [← whole, remainder, List.length_append, List.length_cons]
                omega
              rw [remainder] at whole
              rw [← whole, fields_append_blank isEnd, fields_of_solid notEmpty isSolid]
              exact .word notEmpty isSolid isEnd (separated_fields later)
termination_by text => text.length
decreasing_by
  · exact shorter
  · exact Nat.lt_succ_self rest.length

/-- The fields of a text are the words that blanks separate in it. -/
theorem fields_eq_iff {text : List Char} {words : List (List Char)} :
    fields text = words ↔ Separated text words := by
  constructor
  · rintro rfl
    exact separated_fields text
  · exact Separated.fields_eq

theorem fields_append_blanks
    (text : List Char) {ending : List Char} (blanks : ∀ c ∈ ending, isBlank c = true) :
    fields (text ++ ending) = fields text := by
  induction ending generalizing text with
  | nil => rw [List.append_nil]
  | cons c rest inductionHypothesis =>
      rw [List.append_cons, inductionHypothesis _ fun other member =>
        blanks other (List.mem_cons_of_mem c member)]
      exact fields_concat_blank (blanks c List.mem_cons_self) text

theorem fields_dropWhile (text : List Char) : fields (text.dropWhile isBlank) = fields text := by
  induction text with
  | nil => rfl
  | cons c rest inductionHypothesis =>
      cases blank : isBlank c with
      | true => rw [List.dropWhile_cons_of_pos blank, inductionHypothesis, fields_blank_cons blank]
      | false => rw [List.dropWhile_cons_of_neg (ne_true_of_eq_false blank)]

theorem fields_reverse_dropWhile (text : List Char) :
    fields (text.dropWhile isBlank).reverse = fields text.reverse := by
  induction text with
  | nil => rfl
  | cons c rest inductionHypothesis =>
      cases blank : isBlank c with
      | true =>
          rw [List.dropWhile_cons_of_pos blank, inductionHypothesis, List.reverse_cons,
            fields_concat_blank blank]
      | false => rw [List.dropWhile_cons_of_neg (ne_true_of_eq_false blank)]

/-- Trimming keeps the fields. -/
theorem fields_trim (text : List Char) : fields (trim text) = fields text := by
  rw [trim, fields_reverse_dropWhile, List.reverse_reverse, fields_dropWhile]

theorem exists_eq_append_trim (text : List Char) :
    ∃ before after, text = before ++ trim text ++ after ∧
      (∀ c ∈ before, isBlank c = true) ∧ ∀ c ∈ after, isBlank c = true := by
  let rest := text.dropWhile isBlank
  refine ⟨text.takeWhile isBlank, (rest.reverse.takeWhile isBlank).reverse, ?_, ?_, ?_⟩
  · have ending : trim text ++ (rest.reverse.takeWhile isBlank).reverse = rest := by
      rw [trim, ← List.reverse_append, List.takeWhile_append_dropWhile, List.reverse_reverse]
    rw [List.append_assoc, ending, List.takeWhile_append_dropWhile]
  · exact fun c member => List.all_eq_true.mp (List.all_takeWhile) c member
  · intro c member
    exact List.all_eq_true.mp (List.all_takeWhile) c (List.mem_reverse.mp member)

theorem dropWhile_solid
    {word : List Char} (notEmpty : word ≠ []) (solid : ∀ c ∈ word, isBlank c = false)
    (ending : List Char) : (word ++ ending).dropWhile isBlank = word ++ ending := by
  cases word with
  | nil => exact absurd rfl notEmpty
  | cons c rest =>
      rw [List.cons_append, List.dropWhile_cons_of_neg]
      exact ne_true_of_eq_false (solid c List.mem_cons_self)

/-- Trimming finds a word among blanks. -/
theorem trim_of_solid
    {before word after : List Char} (blanksBefore : ∀ c ∈ before, isBlank c = true)
    (blanksAfter : ∀ c ∈ after, isBlank c = true) (notEmpty : word ≠ [])
    (solid : ∀ c ∈ word, isBlank c = false) : trim (before ++ word ++ after) = word := by
  have turnedSolid : ∀ c ∈ word.reverse, isBlank c = false :=
    fun c member => solid c (List.mem_reverse.mp member)
  have turnedBlanks : ∀ c ∈ after.reverse, isBlank c = true :=
    fun c member => blanksAfter c (List.mem_reverse.mp member)
  have turned := dropWhile_solid (List.reverse_ne_nil_iff.mpr notEmpty) turnedSolid []
  rw [List.append_nil] at turned
  rw [trim, List.append_assoc, List.dropWhile_append_of_pos blanksBefore,
    dropWhile_solid notEmpty solid, List.reverse_append, List.dropWhile_append_of_pos turnedBlanks,
    turned, List.reverse_reverse]

end DesktopAgent.Text
