import DesktopAgent.Text.Numeral

/-!
Numerals are read as the numbers for which they were written.
-/

namespace DesktopAgent.Text.Numeral

theorem isDigit_digit : ∀ value < 10, (digit value).isDigit = true := by
  decide

theorem digitValue_digit : ∀ value < 10, digitValue (digit value) = value := by
  decide

theorem isDigit_of_mem_ofNat (n : Nat) : ∀ c ∈ ofNat n, c.isDigit = true := by
  induction n using ofNat.induct with
  | case1 n small =>
      intro c member
      rw [ofNat, if_pos small] at member
      rw [List.mem_singleton.mp member]
      exact isDigit_digit n small
  | case2 n large inductionHypothesis =>
      intro c member
      rw [ofNat, if_neg large] at member
      rcases List.mem_append.mp member with earlier | last
      · exact inductionHypothesis c earlier
      · rw [List.mem_singleton.mp last]
        exact isDigit_digit (n % 10) (Nat.mod_lt n (by decide))

theorem ofNat_ne_nil (n : Nat) : ofNat n ≠ [] := by
  unfold ofNat
  split <;> simp

theorem value_concat (digits : List Char) (c : Char) :
    value (digits ++ [c]) = 10 * value digits + digitValue c := by
  simp only [value, List.foldl_append, List.foldl_cons, List.foldl_nil]

theorem value_ofNat (n : Nat) : value (ofNat n) = n := by
  induction n using ofNat.induct with
  | case1 n small =>
      rw [ofNat, if_pos small]
      exact (Nat.zero_add _).trans (digitValue_digit n small)
  | case2 n large inductionHypothesis =>
      rw [ofNat, if_neg large, value_concat, inductionHypothesis,
        digitValue_digit (n % 10) (Nat.mod_lt n (by decide))]
      exact Nat.div_add_mod n 10

theorem toNat?_ofNat (n : Nat) : toNat? (ofNat n) = some n := by
  have notEmpty : (ofNat n).isEmpty = false := by
    rw [List.isEmpty_eq_false_iff]
    exact ofNat_ne_nil n
  have digits : (ofNat n).all Char.isDigit = true :=
    List.all_eq_true.mpr (isDigit_of_mem_ofNat n)
  rw [toNat?, notEmpty, digits, value_ofNat]
  rfl

/-- A row that begins with a digit has no sign. -/
theorem toInt?_of_digit
    {c : Char} {rest : List Char} (isDigit : c.isDigit = true) :
    toInt? (c :: rest) = (toNat? (c :: rest)).map fun n => (n : Int) := by
  unfold toInt?
  split
  case h_1 same =>
    cases same
    cases isDigit
  case h_2 same =>
    cases same
    cases isDigit
  case h_3 => rfl

theorem toInt?_ofInt (n : Int) : toInt? (ofInt n) = some n := by
  cases n with
  | ofNat n =>
      have read := toNat?_ofNat n
      have digits := isDigit_of_mem_ofNat n
      rw [ofInt]
      cases row : ofNat n with
      | nil => exact absurd row (ofNat_ne_nil n)
      | cons c rest =>
          rw [row] at read digits
          rw [toInt?_of_digit (digits c List.mem_cons_self), read]
          rfl
  | negSucc n =>
      rw [ofInt, toInt?, toNat?_ofNat]
      rfl

/-- Every integer of 64 bits is read from its numeral. -/
theorem toInt64?_ofInt (n : Int64) : toInt64? (ofInt n.toInt) = some n := by
  have low := n.le_toInt
  have high := n.toInt_lt
  rw [toInt64?, toInt?_ofInt, Option.bind_eq_bind, Option.bind_some, if_pos ⟨low, high⟩,
    Int64.ofInt_toInt]

theorem text_injective {m n : Int} (same : text m = text n) : m = n := by
  have rows : ofInt m = ofInt n := by
    have lists := congrArg String.toList same
    rwa [text, text, String.toList_ofList, String.toList_ofList] at lists
  have read := toInt?_ofInt m
  rw [rows, toInt?_ofInt n] at read
  exact (Option.some.inj read).symm

/-- A row of at least one digit, perhaps with a sign before it, and the integer that it stands for.
-/
inductive Denotes : List Char → Int → Prop
  | unsigned {digits : List Char} :
      digits ≠ [] → (∀ c ∈ digits, c.isDigit = true) → Denotes digits (value digits)
  | positive {digits : List Char} :
      digits ≠ [] → (∀ c ∈ digits, c.isDigit = true) → Denotes ('+' :: digits) (value digits)
  | negative {digits : List Char} :
      digits ≠ [] → (∀ c ∈ digits, c.isDigit = true) → Denotes ('-' :: digits) (-value digits)

theorem toNat?_eq_some_iff {digits : List Char} {n : Nat} :
    toNat? digits = some n ↔
      (digits ≠ [] ∧ ∀ c ∈ digits, c.isDigit = true) ∧ value digits = n := by
  have isRow : (!digits.isEmpty && digits.all Char.isDigit) = true ↔
      digits ≠ [] ∧ ∀ c ∈ digits, c.isDigit = true := by
    simp [List.all_eq_true]
  unfold toNat?
  by_cases row : (!digits.isEmpty && digits.all Char.isDigit) = true
  · rw [if_pos row, Option.some_inj, and_iff_right (isRow.mp row)]
  · rw [if_neg row]
    exact ⟨nofun, fun both => absurd (isRow.mpr both.1) row⟩

theorem toInt?_eq_some_iff {numeral : List Char} {n : Int} :
    toInt? numeral = some n ↔ Denotes numeral n := by
  constructor
  · intro read
    unfold toInt? at read
    split at read
    all_goals
      obtain ⟨_, whole, rfl⟩ := Option.map_eq_some_iff.mp read
      obtain ⟨_, row, same⟩ := Option.bind_eq_some_iff.mp whole
      cases same
      obtain ⟨⟨notEmpty, digits⟩, rfl⟩ := toNat?_eq_some_iff.mp row
    · exact .negative notEmpty digits
    · exact .positive notEmpty digits
    · exact .unsigned notEmpty digits
  · intro denotes
    have reads {digits : List Char} (notEmpty : digits ≠ [])
        (each : ∀ c ∈ digits, c.isDigit = true) : toNat? digits = some (value digits) :=
      toNat?_eq_some_iff.mpr ⟨⟨notEmpty, each⟩, rfl⟩
    cases denotes with
    | unsigned notEmpty each =>
        cases numeral with
        | nil => exact absurd rfl notEmpty
        | cons c rest =>
            rw [toInt?_of_digit (each c List.mem_cons_self), reads notEmpty each]
            rfl
    | positive notEmpty each =>
        rw [toInt?, reads notEmpty each]
        rfl
    | negative notEmpty each =>
        rw [toInt?, reads notEmpty each]
        rfl

theorem denotes_ofInt (n : Int) : Denotes (ofInt n) n :=
  toInt?_eq_some_iff.mp (toInt?_ofInt n)

/-- An integer of 64 bits is read from the numerals that stand for it, and from no other row. -/
theorem toInt64?_eq_some_iff {numeral : List Char} {n : Int64} :
    toInt64? numeral = some n ↔ Denotes numeral n.toInt := by
  rw [← toInt?_eq_some_iff, toInt64?]
  constructor
  · intro read
    obtain ⟨whole, found, kept⟩ := Option.bind_eq_some_iff.mp read
    split at kept
    · rename_i range
      cases kept
      rw [found, Int64.toInt_ofInt_of_le range.1 range.2]
    · cases kept
  · intro found
    rw [found, Option.bind_eq_bind, Option.bind_some, if_pos ⟨n.le_toInt, n.toInt_lt⟩,
      Int64.ofInt_toInt]

theorem Denotes.ne_nil {numeral : List Char} {n : Int} (denotes : Denotes numeral n) :
    numeral ≠ [] := by
  cases denotes with
  | unsigned notEmpty _ => exact notEmpty
  | positive | negative => exact List.cons_ne_nil _ _

theorem Denotes.mem {numeral : List Char} {n : Int} (denotes : Denotes numeral n)
    {c : Char} (member : c ∈ numeral) : c = '+' ∨ c = '-' ∨ c.isDigit = true := by
  cases denotes with
  | unsigned _ digits => exact Or.inr (Or.inr (digits c member))
  | positive _ digits =>
      rcases List.mem_cons.mp member with isSign | later
      · exact Or.inl isSign
      · exact Or.inr (Or.inr (digits c later))
  | negative _ digits =>
      rcases List.mem_cons.mp member with isSign | later
      · exact Or.inr (Or.inl isSign)
      · exact Or.inr (Or.inr (digits c later))

/-- A numeral consists of digits and perhaps a sign. -/
theorem mem_ofInt {n : Int} {c : Char} (member : c ∈ ofInt n) : c = '-' ∨ c.isDigit = true := by
  cases n with
  | ofNat n => exact Or.inr (isDigit_of_mem_ofNat n c member)
  | negSucc n =>
      rcases List.mem_cons.mp member with isSign | isDigit
      · exact Or.inl isSign
      · exact Or.inr (isDigit_of_mem_ofNat (n + 1) c isDigit)

/-- Exactly the numerals of negative integers begin with a dash. -/
theorem head?_text_iff {n : Int} : (text n).toList.head? = some '-' ↔ n < 0 := by
  rw [text, String.toList_ofList]
  cases n with
  | ofNat n =>
      refine ⟨?_, fun negative => absurd negative (Int.not_lt.mpr (Int.natCast_nonneg n))⟩
      intro dash
      have isDigit := isDigit_of_mem_ofNat n '-' (List.mem_of_head? dash)
      exact absurd isDigit (by decide)
  | negSucc n => exact ⟨fun _ => Int.negSucc_lt_zero n, fun _ => rfl⟩

end DesktopAgent.Text.Numeral
