import DesktopAgent.Proofs.Action.Grammar

/-!
Parameters that are null.

A null parameter is as good as none, but for the parameters that have two names: a null under the
first name hides what stands under the second. Leaving the nulls out of a tool input changes its
meaning exactly where something is hidden that would be read otherwise.
-/

namespace DesktopAgent

namespace Json

def isNull : Json → Bool
  | .null => true
  | _ => false

theorem isNull_of_ne {value : Json} (notNull : value ≠ .null) : value.isNull = false := by
  cases value with
  | null => exact absurd rfl notNull
  | _ => rfl

/-- The members whose values are not null. -/
def withoutNulls (members : List (String × Json)) : List (String × Json) :=
  members.filter fun member => !member.2.isNull

/-- What is found, unless it is null. -/
def said (found : Option Json) : Option Json :=
  found.filter fun value => !value.isNull

theorem said_null : said (some .null) = none := rfl

theorem said_of_ne {value : Json} (notNull : value ≠ .null) : said (some value) = some value := by
  simp [said, isNull_of_ne notNull]

theorem lookup_eq_none
    {key : String} {members : List (String × Json)} (absent : key ∉ members.map (·.1)) :
    lookup key members = none := by
  induction members with
  | nil => rfl
  | cons member rest inductionHypothesis =>
      rw [List.map_cons, List.mem_cons, not_or] at absent
      rw [lookup, if_neg (Ne.symm absent.1)]
      exact inductionHypothesis absent.2

theorem lookup_withoutNulls
    {members : List (String × Json)} (distinct : (members.map (·.1)).Nodup) (key : String) :
    lookup key (withoutNulls members) = said (lookup key members) := by
  induction members with
  | nil => rfl
  | cons member rest inductionHypothesis =>
      obtain ⟨name, value⟩ := member
      obtain ⟨notLater, laterDistinct⟩ := List.nodup_cons.mp distinct
      have others := inductionHypothesis laterDistinct
      by_cases null : value = .null
      · have left : withoutNulls ((name, value) :: rest) = withoutNulls rest := by
          rw [null]
          rfl
        rw [left, others, lookup]
        by_cases isName : name = key
        · rw [← isName, lookup_eq_none notLater, if_pos rfl, null]
          rfl
        · rw [if_neg isName]
      · have kept : withoutNulls ((name, value) :: rest) = (name, value) :: withoutNulls rest := by
          refine List.filter_cons_of_pos ?_
          simp [isNull_of_ne null]
        rw [kept, lookup, lookup, others]
        by_cases isName : name = key
        · rw [if_pos isName, if_pos isName, said_of_ne null]
        · rw [if_neg isName, if_neg isName]

theorem said_bind_text? (found : Option Json) : (said found).bind text? = found.bind text? := by
  rcases found with _ | value
  · rfl
  · cases value <;> rfl

end Json

namespace Action

open DesktopAgent.Json (said withoutNulls lookup_withoutNulls said_bind_text?)

variable {parameters : Parameters} (distinct : (parameters.map (·.1)).Nodup)

include distinct in
theorem lookupText_withoutNulls (key : String) :
    Json.lookupText key (withoutNulls parameters) = Json.lookupText key parameters := by
  rw [Json.lookupText, Json.lookupText, lookup_withoutNulls distinct, said_bind_text?]

include distinct in
theorem readPlace_withoutNulls : readPlace (withoutNulls parameters) = readPlace parameters := by
  unfold readPlace
  rw [lookup_withoutNulls distinct]
  cases Json.lookup "coordinate" parameters with
  | none => rfl
  | some value => cases value <;> rfl

/-- A null under the first of two names hides a value under the second. -/
structure Hides (parameters : Parameters) (name second : String) (value : Json) : Prop where
  null : Json.lookup name parameters = some .null
  beside : Json.lookup second parameters = some value
  said : value ≠ .null

section

variable {name second : String}

theorem valueOf_of_first {value : Json} (present : Json.lookup name parameters = some value) :
    valueOf [name, second] parameters = some value := by
  simp [valueOf, present]

theorem valueOf_of_second (absent : Json.lookup name parameters = none) :
    valueOf [name, second] parameters = Json.lookup second parameters := by
  cases found : Json.lookup second parameters <;> simp [valueOf, absent, found]

theorem Hides.valueOf {value : Json} (hides : Hides parameters name second value) :
    valueOf [name, second] parameters = some .null :=
  valueOf_of_first hides.null

include distinct

theorem Hides.valueOf_withoutNulls {value : Json} (hides : Hides parameters name second value) :
    Action.valueOf [name, second] (withoutNulls parameters) = some value := by
  have absent : Json.lookup name (withoutNulls parameters) = none := by
    rw [lookup_withoutNulls distinct, hides.null, Json.said_null]
  rw [valueOf_of_second absent, lookup_withoutNulls distinct, hides.beside,
    Json.said_of_ne hides.said]

theorem valueOf_withoutNulls (unhidden : ∀ value, ¬ Hides parameters name second value) :
    Action.valueOf [name, second] (withoutNulls parameters) =
      said (Action.valueOf [name, second] parameters) := by
  cases first : Json.lookup name parameters with
  | none =>
      have absent : Json.lookup name (withoutNulls parameters) = none := by
        rw [lookup_withoutNulls distinct, first]
        rfl
      rw [valueOf_of_second absent, valueOf_of_second first, lookup_withoutNulls distinct]
  | some value =>
      by_cases null : value = .null
      · rw [null] at first
        have absent : Json.lookup name (withoutNulls parameters) = none := by
          rw [lookup_withoutNulls distinct, first, Json.said_null]
        rw [valueOf_of_second absent, valueOf_of_first first, Json.said_null,
          lookup_withoutNulls distinct]
        cases later : Json.lookup second parameters with
        | none => rfl
        | some other =>
            by_cases isNull : other = .null
            · rw [isNull, Json.said_null]
            · exact absurd ⟨first, later, isNull⟩ (unhidden other)
      · have present : Json.lookup name (withoutNulls parameters) = some value := by
          rw [lookup_withoutNulls distinct, first, Json.said_of_ne null]
        rw [valueOf_of_first present, valueOf_of_first first, Json.said_of_ne null]

theorem text?_valueOf_withoutNulls
    (unhidden : ∀ text, ¬ Hides parameters name second (.string text)) :
    (Action.valueOf [name, second] (withoutNulls parameters)).bind Json.text? =
      (Action.valueOf [name, second] parameters).bind Json.text? := by
  by_cases hidden : ∃ value, Hides parameters name second value
  · obtain ⟨value, hides⟩ := hidden
    rw [hides.valueOf_withoutNulls distinct, hides.valueOf]
    cases value with
    | string text => exact absurd hides (unhidden text)
    | _ => rfl
  · rw [valueOf_withoutNulls distinct fun value hides => hidden ⟨value, hides⟩, said_bind_text?]

end

section

include distinct

theorem readKeys_withoutNulls
    (unhidden : ∀ keys, ¬ Hides parameters "key" "text" (.string keys)) :
    readKeys (withoutNulls parameters) = readKeys parameters := by
  unfold readKeys
  rw [firstPresent_eq, firstPresent_eq, text?_valueOf_withoutNulls distinct unhidden]

theorem readDirection_withoutNulls
    (unhidden : ∀ word, ¬ Hides parameters "direction" "scroll_direction" (.string word)) :
    readDirection (withoutNulls parameters) = readDirection parameters := by
  unfold readDirection
  rw [firstPresent_eq, firstPresent_eq, text?_valueOf_withoutNulls distinct unhidden]

theorem readAmount_withoutNulls
    (unhidden : ∀ value, ¬ Hides parameters "amount" "scroll_amount" value) :
    readAmount (withoutNulls parameters) = readAmount parameters := by
  unfold readAmount
  rw [firstPresent_eq, firstPresent_eq, valueOf_withoutNulls distinct unhidden]
  rcases valueOf ["amount", "scroll_amount"] parameters with _ | value
  · rfl
  · cases value <;> rfl

end

/-- An input in which a null hides a value that would be read otherwise: keys to press; a word for
the direction of a scroll; or an amount other than the default one, where coordinate and direction
are given. -/
inductive Obscured (parameters : Parameters) : Prop
  | keys {keys : String} :
      Json.lookup "action" parameters = some (.string "key") →
      Hides parameters "key" "text" (.string keys) → Obscured parameters
  | direction {place : Option Coordinate} {word : String} :
      Json.lookup "action" parameters = some (.string "scroll") →
      Places (Json.lookup "coordinate" parameters) place →
      Hides parameters "direction" "scroll_direction" (.string word) → Obscured parameters
  | amount {place : Option Coordinate} {direction : ScrollDirection} {value : Json} :
      Json.lookup "action" parameters = some (.string "scroll") →
      Places (Json.lookup "coordinate" parameters) place →
      Directs (valueOf ["direction", "scroll_direction"] parameters) direction →
      Hides parameters "amount" "scroll_amount" value →
      ¬ Counts (some value) 3 → Obscured parameters

section

include distinct

theorem scroll_withoutNulls
    (named : Json.lookup "action" parameters = some (.string "scroll"))
    (clear : ¬ Obscured parameters) :
    ofParameters "scroll" (withoutNulls parameters) = ofParameters "scroll" parameters := by
  rw [ofParameters_scroll, ofParameters_scroll, readPlace_withoutNulls distinct]
  cases read : readPlace parameters with
  | error problem => rfl
  | ok place =>
      have places := ((readPlace_settles parameters).ok_iff place).mp read
      have sameDirection := readDirection_withoutNulls distinct
        fun word hides => clear (.direction named places hides)
      rw [sameDirection]
      cases turned : readDirection parameters with
      | error problem => rfl
      | ok direction =>
          have directs := ((readDirection_settles parameters).ok_iff direction).mp turned
          have sameAmount : readAmount (withoutNulls parameters) = readAmount parameters := by
            by_cases hidden : ∃ value, Hides parameters "amount" "scroll_amount" value
            · obtain ⟨value, hides⟩ := hidden
              have counts : Counts (some value) 3 := by
                by_contra otherwise
                exact clear (.amount named places directs hides otherwise)
              have before := (readAmount_settles parameters).ok_iff 3
              have after := (readAmount_settles (withoutNulls parameters)).ok_iff 3
              rw [hides.valueOf] at before
              rw [hides.valueOf_withoutNulls distinct] at after
              rw [before.mpr (.missing .null), after.mpr counts]
            · exact readAmount_withoutNulls distinct fun value hides => hidden ⟨value, hides⟩
          rw [sameAmount]

theorem ofParameters_withoutNulls
    {name : String} (named : Json.lookup "action" parameters = some (.string name))
    (clear : ¬ Obscured parameters) :
    ofParameters name (withoutNulls parameters) = ofParameters name parameters := by
  have samePlace := readPlace_withoutNulls distinct
  by_cases known : name ∈ vocabulary
  · simp only [vocabulary, List.mem_cons, List.not_mem_nil, or_false] at known
    rcases known with rfl | rfl | rfl | rfl | rfl | rfl | rfl | rfl | rfl
    · exact congrArg (Except.map leftClick) samePlace
    · exact congrArg (Except.map rightClick) samePlace
    · exact congrArg (Except.map doubleClick) samePlace
    · have sameText : requireText "type" "text" (withoutNulls parameters) =
          requireText "type" "text" parameters := by
        rw [requireText, requireText, lookupText_withoutNulls distinct]
      exact congrArg (Except.map type) sameText
    · have sameKeys := readKeys_withoutNulls distinct
        fun keys hides => clear (.keys named hides)
      exact congrArg (Except.map key) sameKeys
    · exact scroll_withoutNulls distinct named clear
    · have required : requirePlace "mouse_move" (withoutNulls parameters) =
          requirePlace "mouse_move" parameters := by
        rw [requirePlace, requirePlace, samePlace]
      exact congrArg (Except.map mouseMove) required
    · rfl
    · rfl
  · rw [ofParameters_of_unknown known, ofParameters_of_unknown known]

theorem lookup_action_withoutNulls
    {name : String} (named : Json.lookup "action" parameters = some (.string name)) :
    Json.lookup "action" (withoutNulls parameters) = some (.string name) := by
  rw [lookup_withoutNulls distinct, named]
  rfl

theorem ofInput_withoutNulls_of_clear (clear : ¬ Obscured parameters) :
    ofInput (.object (withoutNulls parameters)) = ofInput (.object parameters) := by
  rcases wordless_or (Json.lookup "action" parameters) with nameless | ⟨name, named⟩
  · have nowhere : ∀ name, Json.lookup "action" (withoutNulls parameters) ≠
        some (.string name) := by
      intro name isName
      rw [lookup_withoutNulls distinct] at isName
      have found := Option.eq_some_of_filter_eq_some isName
      exact nameless name found
    rw [ofInput_of_nameless nameless, ofInput_of_nameless nowhere]
  · rw [ofInput_of_named named, ofInput_of_named (lookup_action_withoutNulls distinct named)]
    exact ofParameters_withoutNulls distinct named clear

/-- With the nulls left out, a direction that was hidden is found, so that its lack is not told. -/
theorem ofParameters_ne_of_direction
    {word : String} (hides : Hides parameters "direction" "scroll_direction" (.string word)) :
    ofParameters "scroll" (withoutNulls parameters) ≠
      .error (.missingParameter "scroll" "direction") := by
  intro fails
  have refused := ((ofParameters_settles _ _).error_iff _).mp fails
  rcases refused.scroll_cases with misplaces | misdirects | miscounts
  · exact absurd misplaces.parameter (by decide)
  · rw [hides.valueOf_withoutNulls distinct] at misdirects
    obtain wordless | _ := misdirects
    exact wordless word rfl
  · exact absurd miscounts.parameter (by decide)

theorem ofInput_withoutNulls_of_obscured (obscured : Obscured parameters) :
    ofInput (.object (withoutNulls parameters)) ≠ ofInput (.object parameters) := by
  cases obscured with
  | @keys keys named hides =>
      have wordless (keys : String) : valueOf ["key", "text"] parameters ≠ some (.string keys) := by
        rw [hides.valueOf]
        exact nofun
      have fails := ofParameters_of_refused (.keys wordless)
      have reads := ofParameters_of_admitted
        (.key (hides.valueOf_withoutNulls distinct))
      rw [ofInput_of_named named, ofInput_of_named (lookup_action_withoutNulls distinct named),
        fails, reads]
      exact nofun
  | direction named places hides =>
      have wordless (word : String) :
          valueOf ["direction", "scroll_direction"] parameters ≠ some (.string word) := by
        rw [hides.valueOf]
        exact nofun
      have fails := ofParameters_of_refused (.direction places (.wordless wordless))
      rw [ofInput_of_named named, ofInput_of_named (lookup_action_withoutNulls distinct named),
        fails]
      exact ofParameters_ne_of_direction distinct hides
  | @amount place direction value named places directs hides otherwise =>
      have default : Counts (valueOf ["amount", "scroll_amount"] parameters) 3 := by
        rw [hides.valueOf]
        exact .missing .null
      have reads := ofParameters_of_admitted (.scroll places directs default)
      rw [ofInput_of_named named, ofInput_of_named (lookup_action_withoutNulls distinct named),
        reads]
      intro same
      have admitted := ((ofParameters_settles _ _).ok_iff _).mp same
      have counts := admitted.counts
      rw [hides.valueOf_withoutNulls distinct] at counts
      exact otherwise counts

end

/-- In an object, where each key stands once, leaving the nulls out changes nothing unless a null
hides what would be read otherwise; then it does change what is read. -/
theorem ofInput_withoutNulls_iff
    (parameters : Parameters) (distinct : (parameters.map (·.1)).Nodup) :
    ofInput (.object (withoutNulls parameters)) = ofInput (.object parameters) ↔
      ¬ Obscured parameters := by
  constructor
  · intro same obscured
    exact ofInput_withoutNulls_of_obscured distinct obscured same
  · exact ofInput_withoutNulls_of_clear distinct

/-- A scroll with nulls, one of which hides the default amount. -/
def nullScroll : Parameters :=
  [("action", .string "scroll"), ("amount", .null), ("coordinate", .null),
    ("direction", .string "up"), ("scroll_amount", .string "3"), ("scroll_direction", .null)]

theorem ofInput_withoutNulls_nullScroll :
    (nullScroll.map (·.1)).Nodup ∧
    withoutNulls nullScroll =
      [("action", .string "scroll"), ("direction", .string "up"),
        ("scroll_amount", .string "3")] ∧
    ofInput (.object (withoutNulls nullScroll)) = ofInput (.object nullScroll) := by
  refine ⟨by decide, rfl, (ofInput_withoutNulls_iff nullScroll (by decide)).mpr ?_⟩
  have action : Json.lookup "action" nullScroll = some (.string "scroll") := rfl
  have direction : Json.lookup "direction" nullScroll = some (.string "up") := rfl
  have amount : Json.lookup "scroll_amount" nullScroll = some (.string "3") := rfl
  have three : Spells (.string "3") 3 := spells_string_iff.mpr (by decide)
  intro obscured
  cases obscured with
  | keys named _ =>
      rw [action] at named
      exact absurd (Json.string.inj (Option.some.inj named)) (by decide)
  | direction _ _ hides => exact absurd (direction.symm.trans hides.null) nofun
  | amount _ _ _ hides otherwise =>
      have isThree := amount.symm.trans hides.beside
      cases isThree
      exact otherwise (.integer three (by decide))

/-- Keys to press under the second name, beside a null under the first. -/
def hiddenKeys : Parameters :=
  [("action", .string "key"), ("key", .null), ("text", .string "fallback")]

/-- The keys are not read, although they are when the null is left out. -/
theorem ofInput_hiddenKeys_ne :
    ofInput (.object hiddenKeys) = .error (.missingParameter "key" "key") ∧
    ofInput (.object (withoutNulls hiddenKeys)) = .ok (.key "fallback") ∧
    ¬ ∀ parameters : Parameters, (parameters.map (·.1)).Nodup →
      ofInput (.object (withoutNulls parameters)) = ofInput (.object parameters) := by
  have refused : ofInput (.object hiddenKeys) = .error (.missingParameter "key" "key") := rfl
  have read : ofInput (.object (withoutNulls hiddenKeys)) = .ok (.key "fallback") := rfl
  refine ⟨refused, read, ?_⟩
  intro always
  have same := always hiddenKeys (by decide)
  rw [refused, read] at same
  cases same

end Action

end DesktopAgent
