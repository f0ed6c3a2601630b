import DesktopAgent.Proofs.Message.NormalForm

/-!
Which values are blocks.

A value is accepted when it is an object whose `type` names no kind, or names a kind of which it has
the parts; in the content of a tool result each item must be accepted in turn, at any depth. What is
accepted is read, and written again in its normal form.
-/

namespace DesktopAgent

open DesktopAgent.Wire

namespace ImageSource

/-- The names of the parts of an image source. -/
def parts : List String := ["type", "media_type", "data"]

/-- A value that has the parts of an image source, each a text: under their names, beside which
there may be others, or in their order. -/
inductive IsSource : Json → Prop
  | named {members : List (String × Json)} :
      (∀ key ∈ parts, ∃ text, Json.lookup key members = some (.string text)) →
      (∀ member ∈ members, member.1 ∈ parts → ∃ text, member.2 = .string text) →
      IsSource (.object members)
  | ordered (kind mediaType data : String) :
      IsSource (.array [.string kind, .string mediaType, .string data])

/-- Where each key stands once, the parts are found under their names. -/
theorem isSource_object_iff
    {members : List (String × Json)} (distinct : (members.map (·.1)).Nodup) :
    IsSource (.object members) ↔
      ∀ key ∈ parts, ∃ text, Json.lookup key members = some (.string text) := by
  constructor
  · rintro (⟨found, _⟩ | _)
    exact found
  · intro found
    refine .named found ?_
    intro member isMember isPart
    obtain ⟨text, isText⟩ := found member.1 isPart
    rw [Json.lookup_of_mem distinct isMember] at isText
    exact ⟨text, Option.some.inj isText⟩

theorem check_iff {source : Source} {key : String} {value : Json} :
    record.check key source value = .ok () ↔
      (key ∈ parts → ∃ text, value = .string text) := by
  have isPart : key ∈ parts ↔ key = "type" ∨ key = "media_type" ∨ key = "data" := by
    simp [parts]
  rw [isPart, record, Record.check_seq_iff, Record.check_seq_iff]
  change (((Record.field "type" string).check key source value = _ ∧ _) ∧ _) ↔ _
  rw [Record.check_textField_iff, Record.check_textField_iff, Record.check_textField_iff,
    and_assoc, or_imp, or_imp]

theorem exists_fromMembers_iff {source : Source} {members : List (String × Json)} :
    (∃ image, record.fromMembers source members = .ok image) ↔
      ∀ key ∈ parts, ∃ text, Json.lookup key members = some (.string text) := by
  rw [record, Record.exists_seq_iff, Record.exists_seq_iff, Record.exists_map_iff,
    Record.exists_textField_iff, Record.exists_textField_iff, Record.exists_textField_iff]
  simp [parts, and_assoc]

/-- A value is read as an image source exactly when it has its parts. -/
theorem exists_decode_iff {source : Source} {raw : Json} :
    (∃ image, decode source raw = .ok image) ↔ IsSource raw := by
  constructor
  · rintro ⟨image, read⟩
    cases raw with
    | object members =>
        obtain ⟨checked, found⟩ := Record.exists_ofMembers_iff.mp ⟨image, read⟩
        exact .named (exists_fromMembers_iff.mp found)
          fun member isMember => check_iff.mp (checked member isMember)
    | array items =>
        rw [items_of_decode read]
        exact .ordered image.kind image.mediaType image.data
    | _ => cases read
  · rintro (⟨found, texts⟩ | ⟨kind, mediaType, data⟩)
    · exact Record.exists_ofMembers_iff.mpr
        ⟨fun member isMember => check_iff.mpr (texts member isMember),
          exists_fromMembers_iff.mpr found⟩
    · exact ⟨⟨kind, mediaType, data⟩, rfl⟩

end ImageSource

namespace Block

/-- A value that is the wire form of a block. -/
inductive Accepted : Json → Prop
  | text {members : List (String × Json)} {words : String} :
      Json.lookup "type" members = some (.string "text") →
      Json.lookup "text" members = some (.string words) →
      Accepted (.object members)
  | image {members : List (String × Json)} {raw : Json} :
      Json.lookup "type" members = some (.string "image") →
      Json.lookup "source" members = some raw →
      ImageSource.IsSource raw →
      Accepted (.object members)
  | toolUse {members : List (String × Json)} {id name : String} :
      Json.lookup "type" members = some (.string "tool_use") →
      Json.lookup "id" members = some (.string id) →
      Json.lookup "name" members = some (.string name) →
      Accepted (.object members)
  | toolResult {members : List (String × Json)} {toolUseId : String} :
      Json.lookup "type" members = some (.string "tool_result") →
      Json.lookup "tool_use_id" members = some (.string toolUseId) →
      (∀ items, Json.lookup "content" members = some (.array items) →
        ∀ item ∈ items, Accepted item) →
      Accepted (.object members)
  | other {raw : Json} : IsForeign raw → Accepted raw

theorem contentOf_eq (members : List (String × Json)) :
    contentOf members =
      match Json.lookup "content" members with
      | some (.array items) => ofItems items
      | some (.string words) => .ok [.text words]
      | _ => .ok [] := by
  induction members with
  | nil => rfl
  | cons member rest inductionHypothesis =>
      obtain ⟨key, value⟩ := member
      unfold contentOf Json.lookup
      by_cases isContent : key = "content"
      · rw [if_pos isContent, if_pos isContent]
        cases value <;> rfl
      · rw [if_neg isContent, if_neg isContent]
        exact inductionHypothesis

-- The induction follows the reader.
mutual

theorem accepted_of_ofJson :
    ∀ (value : Json) {block : Block}, ofJson value = .ok block → Accepted value
  | .object members, block, read => by
      cases readAs_of_ofJson read with
      | text typed words => exact .text typed words
      | image typed present decoded =>
          exact .image typed present (ImageSource.exists_decode_iff.mp ⟨_, decoded⟩)
      | toolUse typed identified named => exact .toolUse typed identified named
      | toolResult typed identified contents =>
          exact .toolResult typed identified (accepted_of_contentOf members contents)
      | other unknown => exact .other (isForeign_object_iff.mpr unknown)
  | .null, _, read => by cases read
  | .boolean _, _, read => by cases read
  | .number _, _, read => by cases read
  | .string _, _, read => by cases read
  | .array _, _, read => by cases read

theorem accepted_of_ofItems :
    ∀ (items : List Json) {blocks : List Block}, ofItems items = .ok blocks →
      ∀ item ∈ items, Accepted item
  | [], _, _, _, member => by cases member
  | first :: rest, blocks, read, item, member => by
      obtain ⟨_, head, others⟩ := exists_of_bind_eq_ok read
      obtain ⟨_, tail, _⟩ := exists_of_bind_eq_ok others
      rcases List.mem_cons.mp member with isFirst | memberLater
      · rw [isFirst]
        exact accepted_of_ofJson first head
      · exact accepted_of_ofItems rest tail item memberLater

theorem accepted_of_contentOf :
    ∀ (members : List (String × Json)) {blocks : List Block}, contentOf members = .ok blocks →
      ∀ items, Json.lookup "content" members = some (.array items) →
        ∀ item ∈ items, Accepted item
  | [], _, _, _, found => by cases found
  | (key, value) :: rest, blocks, read, items, found => by
      unfold contentOf at read
      unfold Json.lookup at found
      by_cases isContent : key = "content"
      · rw [if_pos isContent] at read found
        cases found
        exact accepted_of_ofItems items read
      · rw [if_neg isContent] at read found
        exact accepted_of_contentOf rest read items found

end

theorem requireText_of_found
    {field text : String} {members : List (String × Json)}
    (found : Json.lookup field members = some (.string text)) :
    requireText field members = .ok text := by
  rw [requireText, lookupText_eq_some_iff.mpr found]

theorem ofJson_of_readAs
    {members : List (String × Json)} {block : Block} (readAs : ReadAs members block) :
    ofJson (.object members) = .ok block := by
  cases readAs with
  | text typed words =>
      simp only [ofJson, kind_of_lookup typed, requireText_of_found words]
      rfl
  | image typed present decoded =>
      simp only [ofJson, kind_of_lookup typed, decodeImage, present, decoded]
  | toolUse typed identified named =>
      simp only [ofJson, kind_of_lookup typed, decodeToolUse, requireText_of_found identified,
        requireText_of_found named]
      rfl
  | toolResult typed identified contents =>
      simp only [ofJson, kind_of_lookup typed, requireText_of_found identified, contents]
      rfl
  | other unknown => exact ofJson_foreign unknown

theorem exists_ofItems
    {items : List Json} (each : ∀ item ∈ items, ∃ block, ofJson item = .ok block) :
    ∃ blocks, ofItems items = .ok blocks := by
  induction items with
  | nil => exact ⟨[], rfl⟩
  | cons item rest inductionHypothesis =>
      obtain ⟨block, head⟩ := each item List.mem_cons_self
      obtain ⟨blocks, tail⟩ := inductionHypothesis
        fun later member => each later (List.mem_cons_of_mem item member)
      refine ⟨block :: blocks, ?_⟩
      simp only [ofItems, head, tail]
      rfl

theorem exists_ofJson_of_accepted
    {value : Json} (accepted : Accepted value) : ∃ block, ofJson value = .ok block := by
  induction accepted with
  | text typed words => exact ⟨_, ofJson_of_readAs (.text typed words)⟩
  | image typed present isSource =>
      obtain ⟨_, decoded⟩ := ImageSource.exists_decode_iff.mpr isSource
      exact ⟨_, ofJson_of_readAs (.image typed present decoded)⟩
  | toolUse typed identified named =>
      exact ⟨_, ofJson_of_readAs (.toolUse typed identified named)⟩
  | @toolResult members _ typed identified _ inductionHypothesis =>
      have read : ∃ blocks, contentOf members = .ok blocks := by
        rw [contentOf_eq]
        split
        next items found => exact exists_ofItems (inductionHypothesis items found)
        next words _ => exact ⟨[.text words], rfl⟩
        next => exact ⟨[], rfl⟩
      obtain ⟨_, contents⟩ := read
      exact ⟨_, ofJson_of_readAs (.toolResult typed identified contents)⟩
  | other foreign =>
      obtain ⟨members, rfl, unnamed⟩ := foreign
      have unknown := isForeign_object_iff.mp ⟨members, rfl, unnamed⟩
      exact ⟨_, ofJson_of_readAs (.other unknown)⟩

/-- A value is read as a block exactly when it is accepted, and is then written in its normal form.
Where each key stands once, an object is an image source when its three parts are texts. -/
theorem accepted_and_normalized (source : Source) :
    (∀ value : Json, (∃ block, decode source value = .ok block) ↔ Accepted value) ∧
    (∀ (value : Json) (block : Block), decode source value = .ok block →
      block.encode = normalForm value) ∧
    ∀ members : List (String × Json), (members.map (·.1)).Nodup →
      (ImageSource.IsSource (.object members) ↔
        ∀ key ∈ ImageSource.parts,
          ∃ text, Json.lookup key members = some (.string text)) := by
  refine ⟨?_, ?_, ?_⟩
  · intro value
    refine ⟨?_, exists_ofJson_of_accepted⟩
    rintro ⟨block, read⟩
    exact accepted_of_ofJson value read
  · intro value block read
    exact encode_of_ofJson value read
  · intro members distinct
    exact ImageSource.isSource_object_iff distinct

/-- A failed result that holds a picture in the form of an array, a result whose content is a text
and whose mark is none, and an object of no kind. -/
def nestedResult : Json :=
  .object [
    ("content", .array [
      .object [("source", .array [.string "base64", .string "image/png", .string "AAAA"]),
        ("type", .string "image")],
      .object [("content", .string "done"), ("is_error", .string "true"),
        ("tool_use_id", .string "b"), ("type", .string "tool_result")],
      .object [("text", .null), ("type", .int 7)]]),
    ("extra", .null), ("is_error", .boolean true), ("tool_use_id", .string "a"),
    ("type", .string "tool_result")]

/-- The nested result is accepted and normalised at each depth; with an item that lacks its text it
is not accepted. -/
theorem accepted_and_normalized_nestedResult :
    (∃ block, decode .direct nestedResult = .ok block ∧ block.encode = .object [
      ("content", .array [
        .object [("source", .object [("data", .string "AAAA"), ("media_type", .string "image/png"),
          ("type", .string "base64")]), ("type", .string "image")],
        .object [("content", .array [.object [("text", .string "done"), ("type", .string "text")]]),
          ("tool_use_id", .string "b"), ("type", .string "tool_result")],
        .object [("text", .null), ("type", .int 7)]]),
      ("is_error", .boolean true), ("tool_use_id", .string "a"),
      ("type", .string "tool_result")]) ∧
    Accepted nestedResult ∧
    ¬ Accepted (.object [
      ("content", .array [nestedResult, .object [("type", .string "text")]]),
      ("tool_use_id", .string "a"), ("type", .string "tool_result")]) := by
  obtain ⟨accepts, normalizes, _⟩ := accepted_and_normalized .direct
  have read : decode .direct nestedResult = .ok (.toolResult "a"
      [.image (.png "AAAA"), .toolResult "b" [.text "done"] false,
        .other (.object [("text", .null), ("type", .int 7)])] true) := rfl
  refine ⟨⟨_, read, ?_⟩, (accepts nestedResult).mp ⟨_, read⟩, ?_⟩
  · exact (normalizes nestedResult _ read).trans rfl
  · intro accepted
    obtain ⟨_, ⟨⟩⟩ := (accepts _).mpr accepted

end Block

end DesktopAgent
