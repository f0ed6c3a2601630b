import DesktopAgent.Client.Response
import DesktopAgent.Proofs.Wire.Record

/-!
What has been read of a response whose body is an object.

Its blocks are those of the elements of its `content`, which it has at most once; each element is
read as the value that it has in the text.
-/

namespace DesktopAgent.Client.Response

open DesktopAgent.Json
open DesktopAgent.Wire

section

variable (numbers : NumberReading)

/-- The values of the items of an array. -/
def itemsOf? : Document → Option (List Json)
  | .array items => Document.contentOfItems? numbers items
  | _ => none

/-- The values of the items of the content that members give. -/
def contentItems? : List (Option String × Document) → Option (List Json)
  | [] => none
  | (key, value) :: rest =>
      if key = some "content" then itemsOf? numbers value else contentItems? rest

/-- The elements of the content of a body that is an object. -/
def elements? (body : String) : Option (List Json) :=
  match Document.read? body.toList with
  | some (.object members) => contentItems? numbers members
  | _ => none

end

variable {numbers : NumberReading}

/-- A body that is the text of an object. -/
def IsObject (body : String) : Prop :=
  ∃ members, Document.read? body.toList = some (.object members)

theorem isObject_of_elements
    {body : String} {items : List Json} (areItems : elements? numbers body = some items) :
    IsObject body := by
  unfold elements? at areItems
  split at areItems
  · rename_i members isMembers
    exact ⟨members, isMembers⟩
  · cases areItems

theorem content_of_valueOf
    {document : Document} {depth : Nat} {value : Json}
    (found : valueOf numbers document depth = .ok value) :
    document.content? numbers = some value := by
  unfold valueOf Document.valueAt? at found
  split at found
  · rename_i present
    cases found
    split at present
    · exact present
    · cases present
  · cases found

theorem exists_of_readBlock
    {document : Document} {depth : Nat} {block : Block}
    (read : readBlock numbers document depth = .ok block) :
    ∃ value, document.content? numbers = some value ∧ Block.ofJson value = .ok block := by
  obtain ⟨value, found, reads⟩ := exists_of_bind_eq_ok read
  refine ⟨value, content_of_valueOf found, ?_⟩
  split at reads
  · rename_i same
    cases reads
    exact same
  · cases reads

theorem exists_of_readItems
    {depth : Nat} (items : List Document) :
    ∀ {blocks : List Block}, items.mapM (fun item => readBlock numbers item depth) = .ok blocks →
      ∃ values, Document.contentOfItems? numbers items = some values ∧
        Block.ofItems values = .ok blocks := by
  induction items with
  | nil =>
      intro blocks read
      cases read
      exact ⟨[], rfl, rfl⟩
  | cons item rest inductionHypothesis =>
      intro blocks read
      rw [List.mapM_cons] at read
      obtain ⟨block, head, others⟩ := exists_of_bind_eq_ok read
      obtain ⟨later, tail, joined⟩ := exists_of_bind_eq_ok others
      cases joined
      obtain ⟨value, isValue, reads⟩ := exists_of_readBlock head
      obtain ⟨values, areValues, readsLater⟩ := inductionHypothesis tail
      refine ⟨value :: values, ?_, ?_⟩
      · simp only [Document.contentOfItems?, isValue, areValues, Option.bind_eq_bind,
          Option.bind_some]
      · simp only [Block.ofItems, reads, readsLater]
        rfl

theorem misplaced_ne_ok
    {α : Type} {document : Document} {depth : Nat} {expected : Expectation} {result : α} :
    misplaced numbers document depth expected ≠ .ok result := by
  intro succeeds
  obtain ⟨_, _, impossible⟩ := exists_of_bind_eq_ok succeeds
  cases impossible

theorem exists_of_readContent
    {document : Document} {depth : Nat} {blocks : List Block}
    (read : readContent numbers document depth = .ok blocks) :
    ∃ items values, document = .array items ∧
      Document.contentOfItems? numbers items = some values ∧ Block.ofItems values = .ok blocks := by
  unfold readContent at read
  split at read
  · obtain ⟨values, areValues, reads⟩ := exists_of_readItems _ read
    exact ⟨_, values, rfl, areValues, reads⟩
  · exact absurd read misplaced_ne_ok

/-- Once there is a content, no other is accepted. -/
theorem readMembers_of_found
    {found : List Block} (members : List (Option String × Document)) :
    ∀ {blocks : List Block}, readMembers numbers (some found) members = .ok blocks →
      blocks = found ∧ ∀ member ∈ members, member.1 ≠ some "content" := by
  induction members with
  | nil =>
      intro blocks read
      cases read
      exact ⟨rfl, nofun⟩
  | cons member rest inductionHypothesis =>
      intro blocks read
      obtain ⟨key, value⟩ := member
      cases key with
      | none => cases read
      | some key =>
          by_cases isContent : key = "content"
          · simp only [readMembers, if_pos isContent] at read
            cases read
          · simp only [readMembers, if_neg isContent] at read
            obtain ⟨same, absent⟩ := inductionHypothesis read
            refine ⟨same, ?_⟩
            intro other isMember
            rcases List.mem_cons.mp isMember with rfl | isLater
            · exact fun isSome => isContent (Option.some.inj isSome)
            · exact absent other isLater

theorem contentItems?_of_ne
    {key : String} (other : key ≠ "content") (value : Document)
    (rest : List (Option String × Document)) :
    contentItems? numbers ((some key, value) :: rest) = contentItems? numbers rest := by
  rw [contentItems?, if_neg fun isSome => other (Option.some.inj isSome)]

/-- Members without a content give no blocks, and others those of the elements of the content. -/
theorem readMembers_cases
    (members : List (Option String × Document)) :
    ∀ {blocks : List Block}, readMembers numbers none members = .ok blocks →
      blocks = [] ∨
        ∃ values, contentItems? numbers members = some values ∧
          Block.ofItems values = .ok blocks := by
  induction members with
  | nil =>
      intro blocks read
      cases read
      exact Or.inl rfl
  | cons member rest inductionHypothesis =>
      intro blocks read
      obtain ⟨key, value⟩ := member
      cases key with
      | none => cases read
      | some key =>
          by_cases isContent : key = "content"
          · simp only [readMembers, if_pos isContent] at read
            obtain ⟨found, contents, others⟩ := exists_of_bind_eq_ok read
            obtain ⟨rfl, _⟩ := readMembers_of_found rest others
            obtain ⟨items, values, rfl, areValues, reads⟩ := exists_of_readContent contents
            refine Or.inr ⟨values, ?_, reads⟩
            rw [isContent]
            exact areValues
          · simp only [readMembers, if_neg isContent] at read
            rw [contentItems?_of_ne isContent]
            exact inductionHypothesis read

theorem read_eq_ok_iff_readDocument
    {body : String} {document : Document} {blocks : List Block}
    (isDocument : Document.read? body.toList = some document) :
    Response.read numbers body = .ok blocks ↔ readDocument numbers document = .ok blocks := by
  cases result : readDocument numbers document with
  | ok others => simp only [Response.read, isDocument, result]
  | error problem =>
      simp only [Response.read, isDocument, result]
      split <;> exact ⟨nofun, nofun⟩

theorem readMembers_of_read
    {body : String} {members : List (Option String × Document)} {blocks : List Block}
    (isMembers : Document.read? body.toList = some (.object members))
    (read : Response.read numbers body = .ok blocks) :
    readMembers numbers none members = .ok blocks :=
  (read_eq_ok_iff_readDocument isMembers).mp read

/-- The blocks of a response whose body is an object. -/
theorem elements_of_read
    {body : String} {blocks : List Block} (isObject : IsObject body)
    (read : Response.read numbers body = .ok blocks) :
    blocks = [] ∨
      ∃ items, elements? numbers body = some items ∧ Block.ofItems items = .ok blocks := by
  obtain ⟨members, isMembers⟩ := isObject
  unfold elements?
  rw [isMembers]
  exact readMembers_cases members (readMembers_of_read isMembers read)

theorem contentOfMembers_cons
    {key : String} {document : Document} {rest : List (Option String × Document)}
    {values : List (String × Json)}
    (areValues : Document.contentOfMembers? numbers ((some key, document) :: rest) = some values) :
    ∃ value later, document.content? numbers = some value ∧
      Document.contentOfMembers? numbers rest = some later ∧ values = (key, value) :: later := by
  simp only [Document.contentOfMembers?, Option.bind_eq_bind, Option.bind_some,
    Option.bind_eq_some_iff] at areValues
  obtain ⟨value, isValue, later, areLater, same⟩ := areValues
  exact ⟨value, later, isValue, areLater, (Option.some.inj same).symm⟩

/-- Values keep the keys of their members. -/
theorem keys_eq_of_contentOfMembers
    (members : List (Option String × Document)) :
    ∀ {values : List (String × Json)}, Document.contentOfMembers? numbers members = some values →
      values.map (fun member => some member.1) = members.map (·.1) := by
  induction members with
  | nil =>
      intro values areValues
      cases areValues
      rfl
  | cons member rest inductionHypothesis =>
      intro values areValues
      obtain ⟨key, document⟩ := member
      cases key with
      | none => cases areValues
      | some key =>
          obtain ⟨value, later, _, areLater, rfl⟩ := contentOfMembers_cons areValues
          exact congrArg (some key :: ·) (inductionHypothesis areLater)

theorem keys_of_contentOfMembers
    {name : String} (members : List (Option String × Document))
    {values : List (String × Json)}
    (areValues : Document.contentOfMembers? numbers members = some values)
    (absent : ∀ member ∈ members, member.1 ≠ some name) : ∀ member ∈ values, member.1 ≠ name := by
  intro value isValue isName
  have isKey : some value.1 ∈ members.map (·.1) := by
    rw [← keys_eq_of_contentOfMembers members areValues]
    exact List.mem_map.mpr ⟨value, isValue, rfl⟩
  obtain ⟨member, isMember, same⟩ := List.mem_map.mp isKey
  exact absent member isMember (same.trans (congrArg some isName))

theorem lookup_content_of_readMembers
    (members : List (Option String × Document)) :
    ∀ {blocks : List Block} {items : List Json} {values sorted : List (String × Json)},
      readMembers numbers none members = .ok blocks → contentItems? numbers members = some items →
      Document.contentOfMembers? numbers members = some values →
      lookup "content" (values.foldl
        (fun sorted member => insert member.1 member.2 sorted) sorted) =
          some (.array items) := by
  induction members with
  | nil =>
      intro blocks items values sorted _ areItems
      cases areItems
  | cons member rest inductionHypothesis =>
      intro blocks items values sorted read areItems areValues
      obtain ⟨key, document⟩ := member
      cases key with
      | none => cases read
      | some key =>
          obtain ⟨value, later, isValue, areLater, rfl⟩ := contentOfMembers_cons areValues
          rw [List.foldl_cons]
          by_cases isContent : key = "content"
          · simp only [readMembers, if_pos isContent] at read
            obtain ⟨found, contents, others⟩ := exists_of_bind_eq_ok read
            obtain ⟨_, absent⟩ := readMembers_of_found rest others
            obtain ⟨documents, _, rfl, _, _⟩ := exists_of_readContent contents
            rw [isContent] at areItems
            have isArray : value = .array items := by
              change Document.contentOfItems? numbers documents = some items at areItems
              rw [Document.content?, areItems] at isValue
              exact (Option.some.inj isValue).symm
            rw [lookup_foldl_insert_of_absent
              (keys_of_contentOfMembers rest areLater absent), lookup_insert,
              if_pos isContent, isArray]
          · simp only [readMembers, if_neg isContent] at read
            rw [contentItems?_of_ne isContent] at areItems
            exact inductionHypothesis read areItems areLater

theorem exists_values_of_parse
    {body : String} {members : List (Option String × Document)} {value : Json}
    (isMembers : Document.read? body.toList = some (.object members))
    (parsed : Json.parse? numbers body = some value) :
    ∃ values, Document.contentOfMembers? numbers members = some values ∧
      Json.ofMembers values = value := by
  unfold Json.parse? at parsed
  rw [isMembers, Option.bind_eq_bind, Option.bind_some, Document.valueAt?] at parsed
  split at parsed
  · exact Option.map_eq_some_iff.mp parsed
  · cases parsed

/-- The elements are those of the content in the value of the body, where the body has one. -/
theorem get_content_of_parse
    {body : String} {blocks : List Block} {items : List Json} {value : Json}
    (read : Response.read numbers body = .ok blocks)
    (areItems : elements? numbers body = some items)
    (parsed : Json.parse? numbers body = some value) :
    value.get? "content" = some (.array items) := by
  unfold elements? at areItems
  split at areItems
  · rename_i members isMembers
    obtain ⟨values, areValues, rfl⟩ := exists_values_of_parse isMembers parsed
    exact lookup_content_of_readMembers members (readMembers_of_read isMembers read) areItems
      areValues
  · cases areItems

end DesktopAgent.Client.Response
