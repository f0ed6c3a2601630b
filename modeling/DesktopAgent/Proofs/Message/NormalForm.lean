import DesktopAgent.Proofs.Message.RoundTrip

/-!
What is left of a block when it has been read and written.

An object of a known kind keeps its known members and nothing else, an image source is written as an
object even where it was an array, and the content of a tool result becomes a list of blocks. Every
other object stays as it is, at any depth.
-/

namespace DesktopAgent

open DesktopAgent.Wire

/-- The members of the given keys, in the order of the keys. -/
def Json.keep (keys : List String) (members : List (String × Json)) : List (String × Json) :=
  keys.filterMap fun key => (Json.lookup key members).map fun value => (key, value)

/-- An image source as an object of its three members. -/
def ImageSource.normalForm : Json → Json
  | .object members => .object (Json.keep ["data", "media_type", "type"] members)
  | .array [kind, mediaType, data] =>
      .object [("data", data), ("media_type", mediaType), ("type", kind)]
  | value => value

namespace Block

/-- The mark of a failed tool result, where it is set. -/
def normalMark (members : List (String × Json)) : List (String × Json) :=
  match Json.lookup "is_error" members with
  | some (.boolean true) => [("is_error", .boolean true)]
  | _ => []

/-- The input of a tool use, which is an empty object where there is none. -/
def normalInput (members : List (String × Json)) : Json :=
  (Json.lookup "input" members).getD (.object [])

/-- The source of an image block in its normal form. -/
def normalSource (members : List (String × Json)) : List (String × Json) :=
  ((Json.lookup "source" members).map fun source =>
    ("source", ImageSource.normalForm source)).toList

mutual

/-- The normal form of a block. -/
def normalForm : Json → Json
  | .object members =>
      match kind members with
      | "text" => .object (Json.keep ["text", "type"] members)
      | "image" => .object (normalSource members ++ Json.keep ["type"] members)
      | "tool_use" =>
          .object (Json.keep ["id"] members ++
            ("input", normalInput members) :: Json.keep ["name", "type"] members)
      | "tool_result" =>
          .object (("content", .array (normalContent members)) ::
            (normalMark members ++ Json.keep ["tool_use_id", "type"] members))
      | _ => .object members
  | value => value

/-- The normal forms of blocks. -/
def normalItems : List Json → List Json
  | [] => []
  | item :: rest => normalForm item :: normalItems rest

/-- The normal form of the content of a tool result. -/
def normalContent : List (String × Json) → List Json
  | [] => []
  | (key, value) :: rest =>
      if key = "content" then
        match value with
        | .array items => normalItems items
        | .string words => [.object [("text", .string words), ("type", .string "text")]]
        | _ => []
      else normalContent rest

end

theorem normalItems_eq_map (items : List Json) : normalItems items = items.map normalForm := by
  induction items with
  | nil => rfl
  | cons item rest inductionHypothesis =>
      rw [normalItems, inductionHypothesis, List.map_cons]

/-- What the members of an object make it, as a block. -/
inductive ReadAs (members : List (String × Json)) : Block → Prop
  | text {words : String} :
      Json.lookup "type" members = some (.string "text") →
      Json.lookup "text" members = some (.string words) →
      ReadAs members (.text words)
  | image {raw : Json} {source : ImageSource} :
      Json.lookup "type" members = some (.string "image") →
      Json.lookup "source" members = some raw →
      ImageSource.decode .direct raw = .ok source →
      ReadAs members (.image source)
  | toolUse {id name : String} :
      Json.lookup "type" members = some (.string "tool_use") →
      Json.lookup "id" members = some (.string id) →
      Json.lookup "name" members = some (.string name) →
      ReadAs members (.toolUse id name (normalInput members))
  | toolResult {toolUseId : String} {content : List Block} :
      Json.lookup "type" members = some (.string "tool_result") →
      Json.lookup "tool_use_id" members = some (.string toolUseId) →
      contentOf members = .ok content →
      ReadAs members (.toolResult toolUseId content (isMarked members))
  | other :
      kind members ∉ kinds →
      ReadAs members (.other (.object members))

theorem lookup_of_requireText
    {field text : String} {members : List (String × Json)}
    (required : requireText field members = .ok text) :
    Json.lookup field members = some (.string text) := by
  unfold requireText at required
  cases found : Json.lookupText field members with
  | none =>
      rw [found] at required
      cases required
  | some words =>
      rw [found] at required
      cases required
      exact lookupText_eq_some_iff.mp found

theorem readAs_of_ofJson
    {members : List (String × Json)} {block : Block}
    (read : ofJson (.object members) = .ok block) : ReadAs members block := by
  by_cases known : kind members ∈ kinds
  · simp only [kinds, List.mem_cons, List.not_mem_nil, or_false] at known
    rcases known with isText | isImage | isUse | isResult
    · simp only [ofJson, isText] at read
      obtain ⟨words, required, rfl⟩ := exists_of_map_eq_ok read
      exact .text ((kind_eq_iff (by decide)).mp isText) (lookup_of_requireText required)
    · simp only [ofJson, isImage, decodeImage] at read
      split at read
      · cases read
      · rename_i raw present
        split at read
        · rename_i source decoded
          cases read
          exact .image ((kind_eq_iff (by decide)).mp isImage) present decoded
        · cases read
    · simp only [ofJson, isUse] at read
      obtain ⟨id, identified, named⟩ := exists_of_bind_eq_ok read
      obtain ⟨name, isName, built⟩ := exists_of_bind_eq_ok named
      cases built
      exact .toolUse ((kind_eq_iff (by decide)).mp isUse) (lookup_of_requireText identified)
        (lookup_of_requireText isName)
    · simp only [ofJson, isResult] at read
      obtain ⟨content, contents, named⟩ := exists_of_bind_eq_ok read
      obtain ⟨toolUseId, identified, built⟩ := exists_of_bind_eq_ok named
      cases built
      exact .toolResult ((kind_eq_iff (by decide)).mp isResult)
        (lookup_of_requireText identified) contents
  · rw [ofJson_foreign known] at read
    cases read
    exact .other known

end Block

/-- An image source that was an array had three texts. -/
theorem ImageSource.items_of_decode
    {source : Source} {items : List Json} {image : ImageSource}
    (read : decode source (.array items) = .ok image) :
    items = [.string image.kind, .string image.mediaType, .string image.data] := by
  obtain ⟨⟨_, rest⟩, reads, ends⟩ := exists_of_bind_eq_ok read
  obtain ⟨⟨_, _⟩, builds, last⟩ := exists_of_bind_eq_ok reads
  obtain ⟨⟨_, _⟩, begins, next⟩ := exists_of_bind_eq_ok builds
  obtain ⟨⟨_, _⟩, first, same⟩ := exists_of_map_eq_ok begins
  cases same
  obtain ⟨⟨_, _⟩, second, joined⟩ := exists_of_bind_eq_ok next
  cases joined
  obtain ⟨⟨_, _⟩, third, built⟩ := exists_of_bind_eq_ok last
  cases built
  obtain ⟨kind, rfl, isKind⟩ := Record.exists_of_field_item first
  obtain ⟨mediaType, rfl, isMediaType⟩ := Record.exists_of_field_item second
  obtain ⟨data, rfl, isData⟩ := Record.exists_of_field_item third
  cases rest with
  | nil =>
      cases ends
      obtain rfl := eq_of_string isKind
      obtain rfl := eq_of_string isMediaType
      obtain rfl := eq_of_string isData
      rfl
  | cons _ _ => cases ends

theorem ImageSource.encode_of_decode
    {source : Source} {raw : Json} {image : ImageSource}
    (read : decode source raw = .ok image) : image.encode = normalForm raw := by
  cases raw with
  | object members =>
      have reads := Record.fromMembers_of_ofMembers read
      obtain ⟨_, builds, last⟩ := exists_of_bind_eq_ok reads
      obtain ⟨_, begins, next⟩ := exists_of_bind_eq_ok builds
      obtain ⟨_, first, rfl⟩ := exists_of_map_eq_ok begins
      obtain ⟨_, second, joined⟩ := exists_of_bind_eq_ok next
      cases joined
      obtain ⟨_, third, built⟩ := exists_of_bind_eq_ok last
      cases built
      have isKind := Record.lookup_of_textField first
      have isMediaType := Record.lookup_of_textField second
      have isData := Record.lookup_of_textField third
      simp only [encode, normalForm, Json.keep, List.filterMap_cons, List.filterMap_nil,
        isKind, isMediaType, isData, Option.map_some]
  | array items =>
      rw [items_of_decode read]
      rfl
  | _ => cases read

namespace Block

theorem errorMark_isMarked (members : List (String × Json)) :
    errorMark (isMarked members) = normalMark members := by
  unfold isMarked normalMark
  cases Json.lookup "is_error" members with
  | none => rfl
  | some value =>
      cases value with
      | boolean marked => cases marked <;> rfl
      | _ => rfl

theorem keep_of_lookup
    {key : String} {value : Json} {members : List (String × Json)}
    (present : Json.lookup key members = some value) (keys : List String) :
    Json.keep (key :: keys) members = (key, value) :: Json.keep keys members := by
  simp only [Json.keep, List.filterMap_cons, present, Option.map_some]

theorem kind_of_lookup
    {word : String} {members : List (String × Json)}
    (typed : Json.lookup "type" members = some (.string word)) : kind members = word := by
  rw [kind, lookupText_eq_some_iff.mpr typed]
  rfl

theorem normalForm_foreign
    {members : List (String × Json)} (unknown : kind members ∉ kinds) :
    normalForm (.object members) = .object members := by
  unfold normalForm
  split
  case h_5 => rfl
  all_goals
    rename_i known
    rw [known] at unknown
    exact absurd (by decide) unknown

-- The induction follows the reader.
mutual

theorem encode_of_ofJson :
    ∀ (value : Json) {block : Block}, ofJson value = .ok block →
      block.encode = normalForm value
  | .object members, block, read => by
      cases readAs_of_ofJson read with
      | text typed words =>
          simp only [normalForm, kind_of_lookup typed]
          rw [keep_of_lookup words, keep_of_lookup typed]
          rfl
      | image typed present decoded =>
          simp only [normalForm, kind_of_lookup typed]
          rw [keep_of_lookup typed, normalSource, present]
          have written := ImageSource.encode_of_decode decoded
          simp only [encode, written, Option.map_some, Option.toList_some]
          rfl
      | toolUse typed identified named =>
          simp only [normalForm, kind_of_lookup typed]
          rw [keep_of_lookup identified, keep_of_lookup named, keep_of_lookup typed]
          rfl
      | toolResult typed identified contents =>
          have written := encodeAll_of_contentOf members contents
          simp only [normalForm, kind_of_lookup typed]
          rw [keep_of_lookup identified, keep_of_lookup typed, ← errorMark_isMarked, ← written]
          rfl
      | other unknown => rw [normalForm_foreign unknown, encode]
  | .null, _, read => by cases read
  | .boolean _, _, read => by cases read
  | .number _, _, read => by cases read
  | .string _, _, read => by cases read
  | .array _, _, read => by cases read

theorem encodeAll_of_ofItems :
    ∀ (items : List Json) {blocks : List Block}, ofItems items = .ok blocks →
      encodeAll blocks = normalItems items
  | [], blocks, read => by
      cases read
      rfl
  | item :: rest, blocks, read => by
      obtain ⟨first, head, others⟩ := exists_of_bind_eq_ok read
      obtain ⟨later, tail, joined⟩ := exists_of_bind_eq_ok others
      cases joined
      rw [encodeAll, normalItems, encode_of_ofJson item head, encodeAll_of_ofItems rest tail]

theorem encodeAll_of_contentOf :
    ∀ (members : List (String × Json)) {blocks : List Block},
      contentOf members = .ok blocks → encodeAll blocks = normalContent members
  | [], blocks, read => by
      cases read
      rfl
  | (key, value) :: rest, blocks, read => by
      unfold contentOf at read
      unfold normalContent
      by_cases isContent : key = "content"
      · rw [if_pos isContent] at read ⊢
        cases value with
        | array items => exact encodeAll_of_ofItems items read
        | _ =>
            cases read
            rfl
      · rw [if_neg isContent] at read ⊢
        exact encodeAll_of_contentOf rest read

end

end Block

end DesktopAgent
