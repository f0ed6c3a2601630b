import DesktopAgent.Message.Wire
import DesktopAgent.Proofs.Wire.Record

/-!
Blocks and turns come back from their wire form, and exactly the well-formed ones do.

A block that is kept as it came must be an object of none of the kinds that are read into parts;
otherwise its wire form is read as something else. Reading never yields any other block, so what was
read once is read back unchanged.
-/

namespace DesktopAgent

open DesktopAgent.Wire

namespace Block

/-- The kinds of block that are read into their parts. -/
def kinds : List String := ["text", "image", "tool_use", "tool_result"]

/-- An object whose `type` is the word of no kind. -/
def IsForeign (raw : Json) : Prop :=
  ∃ members, raw = .object members ∧
    ∀ word ∈ kinds, Json.lookup "type" members ≠ some (.string word)

/-- A block in which whatever is kept as it came is foreign, at any depth. -/
inductive WellFormed : Block → Prop
  | text (words : String) : WellFormed (.text words)
  | image (source : ImageSource) : WellFormed (.image source)
  | toolUse (id name : String) (input : Json) : WellFormed (.toolUse id name input)
  | toolResult (toolUseId : String) {content : List Block} (isError : Bool) :
      (∀ block ∈ content, WellFormed block) →
      WellFormed (.toolResult toolUseId content isError)
  | other {raw : Json} : IsForeign raw → WellFormed (.other raw)

theorem lookupText_eq_some_iff
    {key text : String} {members : List (String × Json)} :
    Json.lookupText key members = some text ↔
      Json.lookup key members = some (.string text) := by
  unfold Json.lookupText
  cases Json.lookup key members with
  | none => simp
  | some value => cases value <;> simp [Json.text?]

theorem kind_eq_iff
    {word : String} (notEmpty : word ≠ "") {members : List (String × Json)} :
    kind members = word ↔ Json.lookup "type" members = some (.string word) := by
  rw [← lookupText_eq_some_iff, kind]
  cases Json.lookupText "type" members with
  | none => simp [Ne.symm notEmpty]
  | some text => simp

theorem isForeign_object_iff {members : List (String × Json)} :
    IsForeign (.object members) ↔ kind members ∉ kinds := by
  have named : ∀ word ∈ kinds,
      (kind members = word ↔ Json.lookup "type" members = some (.string word)) := by
    intro word member
    have notEmpty : word ≠ "" := by
      rintro rfl
      exact absurd member (by decide)
    exact kind_eq_iff notEmpty
  constructor
  · rintro ⟨_, ⟨⟩, unnamed⟩ member
    exact unnamed _ member ((named _ member).mp rfl)
  · intro unknown
    refine ⟨members, rfl, ?_⟩
    intro word member isWord
    have same : kind members = word := (named word member).mpr isWord
    exact unknown (same ▸ member)

theorem ofJson_foreign
    {members : List (String × Json)} (unknown : kind members ∉ kinds) :
    ofJson (.object members) = .ok (.other (.object members)) := by
  unfold ofJson
  split
  case h_5 => rfl
  all_goals
    rename_i known
    rw [known] at unknown
    exact absurd (by decide) unknown

/-- What an object is read as. -/
theorem ofJson_object_cases
    {members : List (String × Json)} {block : Block}
    (read : ofJson (.object members) = .ok block) :
    (∃ words, block = .text words) ∨
    (∃ source, block = .image source) ∨
    (∃ id name input, block = .toolUse id name input) ∨
    (∃ toolUseId content isError, contentOf members = .ok content ∧
      block = .toolResult toolUseId content isError) ∨
    (kind members ∉ kinds ∧ block = .other (.object members)) := by
  by_cases known : kind members ∈ kinds
  · simp only [kinds, List.mem_cons, List.not_mem_nil, or_false] at known
    rcases known with isText | isImage | isUse | isResult
    · simp only [ofJson, isText] at read
      obtain ⟨words, _, rfl⟩ := exists_of_map_eq_ok read
      exact Or.inl ⟨words, rfl⟩
    · simp only [ofJson, isImage, decodeImage] at read
      split at read
      · cases read
      · split at read
        · cases read
          exact Or.inr (Or.inl ⟨_, rfl⟩)
        · cases read
    · simp only [ofJson, isUse] at read
      obtain ⟨id, _, named⟩ := exists_of_bind_eq_ok read
      obtain ⟨name, _, built⟩ := exists_of_bind_eq_ok named
      cases built
      exact Or.inr (Or.inr (Or.inl ⟨id, name, _, rfl⟩))
    · simp only [ofJson, isResult] at read
      obtain ⟨content, contents, named⟩ := exists_of_bind_eq_ok read
      obtain ⟨toolUseId, _, built⟩ := exists_of_bind_eq_ok named
      cases built
      exact Or.inr (Or.inr (Or.inr (Or.inl ⟨toolUseId, content, _, contents, rfl⟩)))
  · rw [ofJson_foreign known] at read
    cases read
    exact Or.inr (Or.inr (Or.inr (Or.inr ⟨known, rfl⟩)))

-- The induction follows the reader: a value, the items of an array, and the members among which
-- the content of a tool result stands.
mutual

theorem wellFormed_of_ofJson :
    ∀ (value : Json) {block : Block}, ofJson value = .ok block → block.WellFormed
  | .object members, block, read => by
      rcases ofJson_object_cases read with
        ⟨words, rfl⟩ | ⟨source, rfl⟩ | ⟨id, name, input, rfl⟩ |
          ⟨toolUseId, content, isError, contents, rfl⟩ | ⟨unknown, rfl⟩
      · exact .text words
      · exact .image source
      · exact .toolUse id name input
      · exact .toolResult toolUseId isError (wellFormed_of_contentOf members contents)
      · exact .other (isForeign_object_iff.mpr unknown)
  | .null, _, read => by cases read
  | .boolean _, _, read => by cases read
  | .number _, _, read => by cases read
  | .string _, _, read => by cases read
  | .array _, _, read => by cases read

theorem wellFormed_of_ofItems :
    ∀ (items : List Json) {blocks : List Block}, ofItems items = .ok blocks →
      ∀ block ∈ blocks, block.WellFormed
  | [], blocks, read, block, member => by
      cases read
      cases member
  | item :: rest, blocks, read, block, member => by
      obtain ⟨first, head, others⟩ := exists_of_bind_eq_ok read
      obtain ⟨later, tail, joined⟩ := exists_of_bind_eq_ok others
      cases joined
      rcases List.mem_cons.mp member with rfl | memberLater
      · exact wellFormed_of_ofJson item head
      · exact wellFormed_of_ofItems rest tail block memberLater

theorem wellFormed_of_contentOf :
    ∀ (members : List (String × Json)) {blocks : List Block}, contentOf members = .ok blocks →
      ∀ block ∈ blocks, block.WellFormed
  | [], blocks, read, block, member => by
      cases read
      cases member
  | (key, value) :: rest, blocks, read, block, member => by
      unfold contentOf at read
      by_cases isContent : key = "content"
      · rw [if_pos isContent] at read
        cases value with
        | array items => exact wellFormed_of_ofItems items read block member
        | string words =>
            cases read
            rw [List.mem_singleton.mp member]
            exact .text words
        | _ =>
            cases read
            cases member
      · rw [if_neg isContent] at read
        exact wellFormed_of_contentOf rest read block member

end

theorem ofItems_encodeAll
    {blocks : List Block} (each : ∀ block ∈ blocks, ofJson block.encode = .ok block) :
    ofItems (encodeAll blocks) = .ok blocks := by
  induction blocks with
  | nil => rfl
  | cons block rest inductionHypothesis =>
      have head := each block List.mem_cons_self
      have tail := inductionHypothesis fun later member =>
        each later (List.mem_cons_of_mem block member)
      simp only [encodeAll, ofItems, head, tail]
      rfl

theorem ofJson_encode {block : Block} (wellFormed : block.WellFormed) :
    ofJson block.encode = .ok block := by
  induction wellFormed with
  | text words => rfl
  | image source => rfl
  | toolUse id name input => rfl
  | @toolResult toolUseId content isError _ inductionHypothesis =>
      have contents := ofItems_encodeAll inductionHypothesis
      cases isError with
      | false =>
          change (do
            let content ← ofItems (encodeAll content)
            return Block.toolResult toolUseId content false) = _
          rw [contents]
          rfl
      | true =>
          change (do
            let content ← ofItems (encodeAll content)
            return Block.toolResult toolUseId content true) = _
          rw [contents]
          rfl
  | other foreign =>
      obtain ⟨members, rfl, unnamed⟩ := foreign
      exact ofJson_foreign (isForeign_object_iff.mp ⟨members, rfl, unnamed⟩)

theorem ofItems_eq_mapM (items : List Json) : ofItems items = items.mapM ofJson := by
  induction items with
  | nil => rfl
  | cons item rest inductionHypothesis =>
      rw [List.mapM_cons, ← inductionHypothesis]
      rfl

end Block

namespace Turn

/-- A turn all of whose blocks are well-formed. -/
def WellFormed (turn : Turn) : Prop :=
  ∀ block ∈ turn.content, block.WellFormed

theorem yields_wellFormed : Yields decode WellFormed := by
  have blocks : Yields Block.decode Block.WellFormed :=
    fun _ value _ read => Block.wellFormed_of_ofJson value read
  have roles : (Turn.mk <$> Record.field "role" Role.decode).Yields fun build =>
      ∀ content : List Block, (∀ block ∈ content, block.WellFormed) →
        WellFormed (build content) :=
    .map Turn.mk (.field "role" fun _ _ _ _ _ each => each)
  exact Record.Yields.decoder "Turn" (roles.apply (.field "content" blocks.sequence))

theorem decode_encode (source : Source) {turn : Turn} (wellFormed : turn.WellFormed) :
    decode source turn.encode = .ok turn := by
  have role : Role.decode source turn.role.encode = .ok turn.role := by
    cases turn.role with
    | user => rfl
    | assistant => rfl
  have each : ∀ block ∈ turn.content, Block.ofJson block.encode = .ok block :=
    fun block member => Block.ofJson_encode (wellFormed block member)
  have content :
      sequence Block.decode source (.array (Block.encodeAll turn.content)) =
        .ok turn.content := by
    have items := Block.ofItems_encodeAll each
    rw [Block.ofItems_eq_mapM] at items
    exact items
  simp [decode, encode, Record.decoder, Record.ofMembers, record, Functor.map, Seq.seq,
    Record.apply, Record.map, Record.field, Json.lookup, role, content]
  rfl

end Turn

/-- A block comes back from its wire form exactly when it is well-formed, and whatever is read is
well-formed and read back unchanged; so it is with turns. -/
theorem round_trip_exactly_wellFormed (source : Source) :
    (∀ block : Block,
      Block.decode source block.encode = .ok block ↔ block.WellFormed) ∧
    (∀ (value : Json) (block : Block), Block.decode source value = .ok block →
      block.WellFormed ∧
        Block.decode source block.encode = Block.decode source value) ∧
    (∀ turn : Turn,
      Turn.decode source turn.encode = .ok turn ↔ turn.WellFormed) ∧
    (∀ (value : Json) (turn : Turn), Turn.decode source value = .ok turn →
      turn.WellFormed ∧
        Turn.decode source turn.encode = Turn.decode source value) := by
  refine ⟨?_, ?_, ?_, ?_⟩
  · intro block
    exact ⟨Block.wellFormed_of_ofJson block.encode, Block.ofJson_encode⟩
  · intro value block read
    have wellFormed : block.WellFormed := Block.wellFormed_of_ofJson value read
    exact ⟨wellFormed, (Block.ofJson_encode wellFormed).trans read.symm⟩
  · intro turn
    exact ⟨Turn.yields_wellFormed source turn.encode turn, Turn.decode_encode source⟩
  · intro value turn read
    have wellFormed := Turn.yields_wellFormed source value turn read
    exact ⟨wellFormed, (Turn.decode_encode source wellFormed).trans read.symm⟩

/-- A turn in the form of an array, with a failed result whose content holds a result with a text
for its content and an object of no kind. -/
def nestedTurn : Json :=
  .array [.string "user", .array [.object [
    ("content", .array [
      .object [("content", .string "done"), ("tool_use_id", .string "b"),
        ("type", .string "tool_result")],
      .object [("type", .int 7)]]),
    ("extra", .null), ("is_error", .boolean true), ("tool_use_id", .string "a"),
    ("type", .string "tool_result")]]]

/-- What is nested comes back without its extra members; an object of a known kind that was kept as
it came does not. -/
theorem round_trip_of_nestedTurn :
    (∃ turn, Turn.decode .direct nestedTurn = .ok turn ∧ turn.WellFormed ∧
      Turn.decode .direct turn.encode = .ok turn) ∧
    Block.decode .direct
      (Block.toolResult "a" [.other (.object [("type", .string "text")])] false).encode ≠
        .ok (.toolResult "a" [.other (.object [("type", .string "text")])] false) := by
  obtain ⟨blocks, _, _, turns⟩ := round_trip_exactly_wellFormed .direct
  constructor
  · have read : Turn.decode .direct nestedTurn = .ok
        ⟨.user, [.toolResult "a" [.toolResult "b" [.text "done"] false,
          .other (.object [("type", .int 7)])] true]⟩ := rfl
    obtain ⟨wellFormed, again⟩ := turns nestedTurn _ read
    exact ⟨_, read, wellFormed, again.trans read⟩
  · intro comesBack
    cases (blocks _).mp comesBack with
    | toolResult _ _ contents =>
        cases contents _ (List.mem_singleton.mpr rfl) with
        | other foreign =>
            obtain ⟨_, ⟨⟩, unnamed⟩ := foreign
            exact unnamed "text" (by decide) rfl

end DesktopAgent
