import DesktopAgent.Proofs.Client.Conversation
import DesktopAgent.Proofs.Message.Acceptance
import Mathlib.Data.List.Forall2
import Mathlib.Data.List.Nodup

/-!
What a client makes of a response.

A response gives a turn only when its status says success and its body is a response. Of a body
that is the text of an object only the content counts: absent it gives no blocks, and otherwise it
must be an array of blocks, all of which are in the turn. In every other case the failure is one of
the model.
-/

namespace DesktopAgent

open DesktopAgent.Json
open DesktopAgent.Wire

/-- Each item is read as the block in its place. -/
abbrev Block.ReadsAll : List Json → List Block → Prop :=
  List.Forall₂ fun item block => Block.decode .direct item = .ok block

theorem Block.ofItems_eq_ok_iff {items : List Json} {blocks : List Block} :
    ofItems items = .ok blocks ↔ ReadsAll items blocks := by
  constructor
  · intro read
    induction items generalizing blocks with
    | nil =>
        cases read
        exact .nil
    | cons item rest inductionHypothesis =>
        obtain ⟨block, head, others⟩ := exists_of_bind_eq_ok read
        obtain ⟨later, tail, joined⟩ := exists_of_bind_eq_ok others
        cases joined
        exact .cons head (inductionHypothesis tail)
  · intro reads
    induction reads with
    | nil => rfl
    | @cons item block rest later head _ inductionHypothesis =>
        have first : ofJson item = .ok block := head
        simp only [ofItems, first, inductionHypothesis]
        rfl

/-- A value that stands in a value or is it: an item of the content of a tool result, at any
depth. -/
inductive Block.Within (whole : Json) : Json → Prop
  | self : Within whole whole
  | content {members : List (String × Json)} {items : List Json} {item : Json} :
      Within whole (.object members) →
      lookup "type" members = some (.string "tool_result") →
      lookup "content" members = some (.array items) → item ∈ items →
      Within whole item

/-- In a block every item of a tool result is a block. -/
theorem Block.Accepted.within {whole item : Json} (accepted : Accepted whole)
    (isWithin : Within whole item) : Accepted item := by
  induction isWithin with
  | self => exact accepted
  | @content members items item _ typed listed member inductionHypothesis =>
      cases inductionHypothesis with
      | text otherType _ =>
          rw [typed] at otherType
          exact absurd (Json.string.inj (Option.some.inj otherType)) (by decide)
      | image otherType _ _ =>
          rw [typed] at otherType
          exact absurd (Json.string.inj (Option.some.inj otherType)) (by decide)
      | toolUse otherType _ _ =>
          rw [typed] at otherType
          exact absurd (Json.string.inj (Option.some.inj otherType)) (by decide)
      | toolResult _ _ each => exact each items listed item member
      | other foreign =>
          obtain ⟨_, ⟨⟩, unnamed⟩ := foreign
          exact absurd typed (unnamed "tool_result" (by decide))

/-- Where each key stands once, a member is found in the object of the members. -/
theorem Json.lookup_foldl_insert_of_mem
    {members : List (String × Json)} (distinct : (members.map (·.1)).Nodup)
    {name : String} {value : Json} (isMember : (name, value) ∈ members) :
    ∀ sorted : List (String × Json),
      lookup name (members.foldl (fun sorted member => insert member.1 member.2 sorted) sorted) =
        some value := by
  induction members with
  | nil => cases isMember
  | cons member rest inductionHypothesis =>
      intro sorted
      obtain ⟨notLater, laterDistinct⟩ := List.nodup_cons.mp distinct
      rw [List.foldl_cons]
      rcases List.mem_cons.mp isMember with rfl | isLater
      · have absent : ∀ later ∈ rest, later.1 ≠ name :=
          fun later isLater same => notLater (List.mem_map.mpr ⟨later, isLater, same⟩)
        rw [lookup_foldl_insert_of_absent absent, lookup_insert, if_pos rfl]
      · exact inductionHypothesis laterDistinct isLater _

namespace Json.Document

variable {numbers : NumberReading}

theorem depth_le_depthOfItems {items : List Document} {item : Document} (member : item ∈ items) :
    item.depth ≤ depthOfItems items := by
  induction items with
  | nil => cases member
  | cons first rest inductionHypothesis =>
      rcases List.mem_cons.mp member with rfl | later
      · exact Nat.le_max_left _ _
      · exact Nat.le_trans (inductionHypothesis later) (Nat.le_max_right _ _)

theorem depth_le_depthOfMembers
    {members : List (Option String × Document)} {key : Option String} {document : Document}
    (member : (key, document) ∈ members) : document.depth ≤ depthOfMembers members := by
  induction members with
  | nil => cases member
  | cons first rest inductionHypothesis =>
      rcases List.mem_cons.mp member with rfl | later
      · exact Nat.le_max_left _ _
      · exact Nat.le_trans (inductionHypothesis later) (Nat.le_max_right _ _)

theorem exists_mem_of_contentOfItems
    {items : List Document} {item : Document} (member : item ∈ items) :
    ∀ {values : List Json}, contentOfItems? numbers items = some values →
      ∃ value ∈ values, item.content? numbers = some value := by
  induction items with
  | nil => cases member
  | cons first rest inductionHypothesis =>
      intro values areValues
      simp only [contentOfItems?, Option.bind_eq_bind, Option.bind_eq_some_iff] at areValues
      obtain ⟨head, isHead, tail, areTail, same⟩ := areValues
      cases same
      rcases List.mem_cons.mp member with rfl | later
      · exact ⟨head, List.mem_cons_self, isHead⟩
      · obtain ⟨value, isValue, same⟩ := inductionHypothesis later areTail
        exact ⟨value, List.mem_cons_of_mem head isValue, same⟩

theorem exists_mem_of_contentOfMembers
    {members : List (Option String × Document)} {key : String} {document : Document}
    (member : (some key, document) ∈ members) :
    ∀ {values : List (String × Json)}, contentOfMembers? numbers members = some values →
      ∃ value, document.content? numbers = some value ∧ (key, value) ∈ values := by
  induction members with
  | nil => cases member
  | cons first rest inductionHypothesis =>
      intro values areValues
      obtain ⟨name, other⟩ := first
      cases name with
      | none => cases areValues
      | some name =>
          obtain ⟨head, tail, isHead, areTail, rfl⟩ :=
            Client.Response.contentOfMembers_cons areValues
          rcases List.mem_cons.mp member with same | later
          · cases same
            exact ⟨head, isHead, List.mem_cons_self⟩
          · obtain ⟨value, isValue, isLater⟩ := inductionHypothesis later areTail
            exact ⟨value, isValue, List.mem_cons_of_mem _ isLater⟩

theorem content_eq_array_iff {document : Document} {items : List Json} :
    document.content? numbers = some (.array items) ↔
      ∃ documents, document = .array documents ∧
        contentOfItems? numbers documents = some items := by
  constructor
  · intro isArray
    cases document with
    | array documents =>
        obtain ⟨values, areValues, same⟩ := Option.map_eq_some_iff.mp isArray
        cases same
        exact ⟨documents, rfl, areValues⟩
    | object members =>
        obtain ⟨values, _, ⟨⟩⟩ := Option.map_eq_some_iff.mp isArray
    | number numeral =>
        obtain ⟨value, _, ⟨⟩⟩ := Option.map_eq_some_iff.mp isArray
    | string text =>
        obtain ⟨value, _, ⟨⟩⟩ := Option.map_eq_some_iff.mp isArray
    | null => cases isArray
    | boolean value => cases isArray
  · rintro ⟨documents, rfl, areItems⟩
    rw [content?, areItems]
    rfl

end Json.Document

/-! ## Bodies that are objects -/

namespace Client.Response

variable {numbers : NumberReading}
variable {body : String} {members : List (Option String × Document)} {blocks : List Block}

theorem readBlock_of_value
    {document : Document} {depth : Nat} {value : Json} {block : Block}
    (nested : depth + document.depth ≤ Document.greatestDepth)
    (isValue : document.content? numbers = some value) (read : Block.ofJson value = .ok block) :
    readBlock numbers document depth = .ok block := by
  have found : valueOf numbers document depth = .ok value := by
    rw [valueOf, Document.valueAt?, if_pos nested, isValue]
  simp only [readBlock, found, bind, Except.bind, read]
  rfl

theorem readItems_of_values
    {documents : List Document} {depth : Nat}
    (nested : ∀ document ∈ documents, depth + document.depth ≤ Document.greatestDepth) :
    ∀ {items : List Json} {blocks : List Block},
      Document.contentOfItems? numbers documents = some items →
      Block.ofItems items = .ok blocks →
      documents.mapM (fun document => readBlock numbers document depth) = .ok blocks := by
  induction documents with
  | nil =>
      intro items blocks areItems read
      cases areItems
      cases read
      rfl
  | cons document rest inductionHypothesis =>
      intro items blocks areItems read
      simp only [Document.contentOfItems?, Option.bind_eq_bind, Option.bind_eq_some_iff] at areItems
      obtain ⟨value, isValue, later, areLater, same⟩ := areItems
      cases same
      obtain ⟨block, head, others⟩ := exists_of_bind_eq_ok read
      obtain ⟨tail, readsLater, joined⟩ := exists_of_bind_eq_ok others
      cases joined
      have first := readBlock_of_value (nested document List.mem_cons_self) isValue head
      have remaining := inductionHypothesis
        (fun other member => nested other (List.mem_cons_of_mem document member)) areLater
        readsLater
      rw [List.mapM_cons, first, remaining]
      rfl

/-- The content is read exactly when it is an array of blocks. -/
theorem readContent_eq_ok_iff
    {document : Document} {depth : Nat}
    (nested : depth + document.depth ≤ Document.greatestDepth) :
    readContent numbers document depth = .ok blocks ↔
      ∃ documents items, document = .array documents ∧
        Document.contentOfItems? numbers documents = some items ∧ Block.ReadsAll items blocks := by
  constructor
  · intro read
    obtain ⟨documents, items, isArray, areItems, reads⟩ := exists_of_readContent read
    exact ⟨documents, items, isArray, areItems, Block.ofItems_eq_ok_iff.mp reads⟩
  · rintro ⟨documents, items, rfl, areItems, reads⟩
    refine readItems_of_values ?_ areItems (Block.ofItems_eq_ok_iff.mpr reads)
    intro document member
    have inside := Document.depth_le_depthOfItems member
    have whole : (Document.array documents).depth = Document.depthOfItems documents + 1 := rfl
    omega

theorem readMembers_of_absent
    (named : ∀ member ∈ members, ∃ key, member.1 = some key)
    (absent : ∀ member ∈ members, member.1 ≠ some "content") (found : Option (List Block)) :
    readMembers numbers found members = .ok (found.getD []) := by
  induction members with
  | nil => rfl
  | cons member rest inductionHypothesis =>
      obtain ⟨key, document⟩ := member
      obtain ⟨name, rfl⟩ : ∃ name, key = some name := named _ List.mem_cons_self
      have other : name ≠ "content" :=
        fun same => absent _ List.mem_cons_self (congrArg some same)
      rw [readMembers, if_neg other]
      exact inductionHypothesis (fun later isLater => named later (List.mem_cons_of_mem _ isLater))
        fun later isLater => absent later (List.mem_cons_of_mem _ isLater)

/-- With one content, what is read is what is read of it. -/
theorem readMembers_of_mem
    (named : ∀ member ∈ members, ∃ key, member.1 = some key)
    (distinct : (members.map (·.1)).Nodup) {document : Document}
    (isContent : (some "content", document) ∈ members) :
    readMembers numbers none members = readContent numbers document 1 := by
  induction members with
  | nil => cases isContent
  | cons member rest inductionHypothesis =>
      obtain ⟨notLater, laterDistinct⟩ := List.nodup_cons.mp distinct
      have namedLater : ∀ later ∈ rest, ∃ key, later.1 = some key :=
        fun later isLater => named later (List.mem_cons_of_mem _ isLater)
      rcases List.mem_cons.mp isContent with rfl | isLater
      · have absent : ∀ later ∈ rest, later.1 ≠ some "content" :=
          fun later isLater same => notLater (List.mem_map.mpr ⟨later, isLater, same⟩)
        cases read : readContent numbers document 1 with
        | error problem =>
            simp only [readMembers, if_true, Option.isSome_none, read]
            rfl
        | ok blocks =>
            simp only [readMembers, if_true, Option.isSome_none, read]
            exact readMembers_of_absent namedLater absent (some blocks)
      · obtain ⟨key, first⟩ := member
        obtain ⟨name, rfl⟩ : ∃ name, key = some name := named _ List.mem_cons_self
        have other : name ≠ "content" := by
          rintro rfl
          exact notLater (List.mem_map.mpr ⟨_, isLater, rfl⟩)
        rw [readMembers, if_neg other]
        exact inductionHypothesis namedLater laterDistinct isLater

/-- The text of an object with texts for its keys, none of which is repeated, and nested no deeper
than is read. -/
structure IsObjectText (body : String) (members : List (Option String × Document)) : Prop where
  read : Document.read? body.toList = some (.object members)
  named : ∀ member ∈ members, ∃ key, member.1 = some key
  distinct : (members.map (·.1)).Nodup
  nested : (Document.object members).depth ≤ Document.greatestDepth

theorem IsObjectText.unique
    (isText : IsObjectText body members) {key : Option String} {first second : Document}
    (isFirst : (key, first) ∈ members) (isSecond : (key, second) ∈ members) : first = second :=
  congrArg Prod.snd (List.inj_on_of_nodup_map isText.distinct isFirst isSecond rfl)

/-- The blocks of an object's content, which may be absent. Its other members may be anything. -/
inductive Holds (numbers : NumberReading) (members : List (Option String × Document)) :
    List Block → Prop
  | nothing : (∀ member ∈ members, member.1 ≠ some "content") → Holds numbers members []
  | blocks {documents : List Document} {items : List Json} {blocks : List Block} :
      (some "content", .array documents) ∈ members →
      Document.contentOfItems? numbers documents = some items → Block.ReadsAll items blocks →
      Holds numbers members blocks

/-- A body that is the text of an object is read exactly when its content holds blocks, as these. -/
theorem read_eq_ok_iff (isText : IsObjectText body members) :
    Response.read numbers body = .ok blocks ↔ Holds numbers members blocks := by
  have same : Response.read numbers body = .ok blocks ↔
      readMembers numbers none members = .ok blocks :=
    read_eq_ok_iff_readDocument isText.read
  rw [same]
  by_cases absent : ∀ member ∈ members, member.1 ≠ some "content"
  · rw [readMembers_of_absent isText.named absent none]
    constructor
    · rintro ⟨⟩
      exact .nothing absent
    · rintro (_ | ⟨isContent, _, _⟩)
      · rfl
      · exact absurd rfl (absent _ isContent)
  · simp only [not_forall, not_not] at absent
    obtain ⟨⟨key, document⟩, isContent, rfl⟩ := absent
    have nested : 1 + document.depth ≤ Document.greatestDepth := by
      have inside := Document.depth_le_depthOfMembers isContent
      have whole : (Document.object members).depth = Document.depthOfMembers members + 1 := rfl
      have limit := isText.nested
      omega
    rw [readMembers_of_mem isText.named isText.distinct isContent, readContent_eq_ok_iff nested]
    constructor
    · rintro ⟨documents, items, rfl, areItems, reads⟩
      exact .blocks isContent areItems reads
    · rintro (absent | ⟨isListed, areItems, reads⟩)
      · exact absurd rfl (absent _ isContent)
      · exact ⟨_, _, isText.unique isContent isListed, areItems, reads⟩

variable {object : List (String × Json)}

/-- The blocks of the content of an object's value. -/
inductive Gives (object : List (String × Json)) : List Block → Prop
  | nothing : lookup "content" object = none → Gives object []
  | blocks {items : List Json} {blocks : List Block} :
      lookup "content" object = some (.array items) → Block.ReadsAll items blocks →
      Gives object blocks

/-- Under a key stands what the text has there. -/
theorem lookup_of_parse
    (isText : IsObjectText body members) (parsed : Json.parse? numbers body = some (.object object))
    {key : String} {document : Document} (isMember : (some key, document) ∈ members) :
    ∃ value, document.content? numbers = some value ∧ lookup key object = some value := by
  obtain ⟨values, areValues, same⟩ := exists_values_of_parse isText.read parsed
  obtain ⟨value, isValue, isListed⟩ := Document.exists_mem_of_contentOfMembers isMember areValues
  have distinct : (values.map (·.1)).Nodup := by
    refine List.Nodup.of_map some ?_
    rw [List.map_map]
    exact keys_eq_of_contentOfMembers members areValues ▸ isText.distinct
  refine ⟨value, isValue, ?_⟩
  rw [← Json.object.inj same]
  exact lookup_foldl_insert_of_mem distinct isListed []

theorem lookup_of_parse_absent
    (isMembers : Document.read? body.toList = some (.object members))
    (parsed : Json.parse? numbers body = some (.object object)) {key : String}
    (absent : ∀ member ∈ members, member.1 ≠ some key) : lookup key object = none := by
  obtain ⟨values, areValues, same⟩ := exists_values_of_parse isMembers parsed
  rw [← Json.object.inj same]
  exact lookup_foldl_insert_of_absent (keys_of_contentOfMembers members areValues absent) []

/-- The content of the value is that of the text. -/
theorem gives_iff_holds
    (isText : IsObjectText body members)
    (parsed : Json.parse? numbers body = some (.object object)) :
    Gives object blocks ↔ Holds numbers members blocks := by
  by_cases absent : ∀ member ∈ members, member.1 ≠ some "content"
  · have missing := lookup_of_parse_absent isText.read parsed absent
    constructor
    · rintro (_ | ⟨found, _⟩)
      · exact .nothing absent
      · rw [missing] at found
        cases found
    · rintro (_ | ⟨isContent, _, _⟩)
      · exact .nothing missing
      · exact absurd rfl (absent _ isContent)
  · simp only [not_forall, not_not] at absent
    obtain ⟨⟨key, document⟩, isContent, rfl⟩ := absent
    obtain ⟨value, isValue, present⟩ := lookup_of_parse isText parsed isContent
    constructor
    · rintro (missing | ⟨found, reads⟩)
      · rw [missing] at present
        cases present
      · rw [Option.some.inj (present.symm.trans found)] at isValue
        obtain ⟨documents, rfl, areItems⟩ := Document.content_eq_array_iff.mp isValue
        exact .blocks isContent areItems reads
    · rintro (absent | ⟨isListed, areItems, reads⟩)
      · exact absurd rfl (absent _ isContent)
      · have isArray := Document.content_eq_array_iff.mpr
          ⟨_, isText.unique isContent isListed, areItems⟩
        rw [Option.some.inj (isValue.symm.trans isArray)] at present
        exact .blocks present reads

/-- A body of which no turn is made: no text of a value, that of no object or array, or that of an
object with a content that is no array or in which some block, at any depth, is none. -/
inductive Unreadable (numbers : NumberReading) (body : String) : Prop
  | malformed : Document.read? body.toList = none → Unreadable numbers body
  | scalar {document : Document} :
      Document.read? body.toList = some document →
      (∀ items, document ≠ .array items) → (∀ members, document ≠ .object members) →
      Unreadable numbers body
  | content {members : List (Option String × Document)} {document : Document} :
      Document.read? body.toList = some (.object members) →
      (some "content", document) ∈ members → (∀ items, document ≠ .array items) →
      Unreadable numbers body
  | block {members : List (Option String × Document)} {documents : List Document}
      {document : Document} :
      Document.read? body.toList = some (.object members) →
      (some "content", .array documents) ∈ members → document ∈ documents →
      (∀ value, document.content? numbers = some value →
        ∃ part, Block.Within value part ∧ ∀ block, Block.decode .direct part ≠ .ok block) →
      Unreadable numbers body

theorem exists_readContent_of_readMembers
    {document : Document} (isContent : (some "content", document) ∈ members) :
    ∀ {found : Option (List Block)} {blocks : List Block},
      readMembers numbers found members = .ok blocks →
      ∃ others, readContent numbers document 1 = .ok others := by
  induction members with
  | nil => cases isContent
  | cons member rest inductionHypothesis =>
      intro found blocks read
      obtain ⟨key, first⟩ := member
      cases key with
      | none => cases read
      | some key =>
          by_cases named : key = "content"
          · rw [readMembers, if_pos named] at read
            split at read
            · cases read
            · obtain ⟨others, contents, later⟩ := exists_of_bind_eq_ok read
              rcases List.mem_cons.mp isContent with same | isLater
              · cases same
                exact ⟨others, contents⟩
              · exact inductionHypothesis isLater later
          · rw [readMembers, if_neg named] at read
            rcases List.mem_cons.mp isContent with same | isLater
            · cases same
              exact absurd rfl named
            · exact inductionHypothesis isLater read

theorem read_ne_ok (unreadable : Unreadable numbers body) :
    Response.read numbers body ≠ .ok blocks := by
  intro read
  cases unreadable with
  | malformed missing =>
      simp only [Response.read, missing] at read
      cases read
  | @scalar document isDocument noArray noObject =>
      have reads := (read_eq_ok_iff_readDocument isDocument).mp read
      cases document with
      | array items => exact noArray items rfl
      | object members => exact noObject members rfl
      | _ => exact misplaced_ne_ok reads
  | content isMembers isContent noArray =>
      have reads := readMembers_of_read isMembers read
      obtain ⟨others, contents⟩ := exists_readContent_of_readMembers isContent reads
      obtain ⟨items, _, isArray, _⟩ := exists_of_readContent contents
      exact noArray items isArray
  | block isMembers isContent isItem undecodable =>
      have reads := readMembers_of_read isMembers read
      obtain ⟨others, contents⟩ := exists_readContent_of_readMembers isContent reads
      obtain ⟨_, values, ⟨⟩, areValues, readsAll⟩ := exists_of_readContent contents
      obtain ⟨value, isValue, same⟩ := Document.exists_mem_of_contentOfItems isItem areValues
      obtain ⟨part, isWithin, refused⟩ := undecodable value same
      have accepted := (Block.accepted_of_ofItems values readsAll value isValue).within isWithin
      obtain ⟨block, decoded⟩ := Block.exists_ofJson_of_accepted accepted
      exact refused block decoded

end Client.Response

/-! ## Replies -/

namespace Client

open DesktopAgent.Client.Response

variable {numbers : NumberReading} {response : HttpResponse} {turn : Turn}

theorem interpret_eq_ok_iff :
    interpret numbers response = .ok turn ↔
      Status.isSuccess response.status = true ∧ turn.role = .assistant ∧
        Response.read numbers response.text = .ok turn.content := by
  constructor
  · intro interpreted
    have success : Status.isSuccess response.status = true := by
      by_contra refused
      simp only [interpret, refused] at interpreted
      cases interpreted
    obtain ⟨blocks, read, rfl⟩ := exists_of_interpret interpreted
    exact ⟨success, rfl, read⟩
  · rintro ⟨success, isAssistant, read⟩
    obtain ⟨role, content⟩ := turn
    cases isAssistant
    simp only [interpret, success, if_true, read]
    rfl

theorem isSuccess_iff {status : Nat} :
    Status.isSuccess status = true ↔ 200 ≤ status ∧ status ≤ 299 := by
  simp only [Status.isSuccess, Bool.and_eq_true, decide_eq_true_eq]
  omega

variable {ν : Type} {transport : Transport ν} {client : Client} {request : Request} {state : ν}

/-- The reply to a request that is sent is what is made of what is received. -/
theorem reply_of_prepare
    {sent : HttpRequest} (prepared : prepare client.config request = .ok sent) :
    ((model numbers transport client).reply request state).1 =
      (receive numbers (transport.exchange sent state).1).mapError CallProblem.failure := by
  simp only [model, createMessage, prepared]
  cases receive numbers (transport.exchange sent state).1 <;> rfl

theorem error_of_reply
    {failure : Failure}
    (failed : ((model numbers transport client).reply request state).1 = .error failure) :
    ∃ reason, failure = .model reason := by
  simp only [model] at failed
  split at failed
  · cases failed
  · cases failed
    exact ⟨_, rfl⟩

/-- What is made of a status and a body: a turn only for success, with the blocks of the content,
and the words of a refusal for every other status. -/
structure Handled (numbers : NumberReading) (status : Nat) (body : String)
    (result : Except Failure Turn) : Prop where
  success : ∀ turn, result = .ok turn → 200 ≤ status ∧ status ≤ 299
  text : 200 ≤ status → status ≤ 299 → ∀ members, IsObjectText body members →
    ∀ turn, result = .ok turn ↔ turn.role = .assistant ∧ Holds numbers members turn.content
  value : 200 ≤ status → status ≤ 299 → ∀ members object, IsObjectText body members →
    Json.parse? numbers body = some (.object object) →
    ∀ turn, result = .ok turn ↔ turn.role = .assistant ∧ Gives object turn.content
  refused : ¬(200 ≤ status ∧ status ≤ 299) →
    result = .error (.model ("Anthropic error " ++ Text.Numeral.text status ++ " " ++
      Status.phrase status ++ ": " ++ body))
  unreadable : Unreadable numbers body → ∃ reason, result = .error (.model reason)

theorem handling_eq_ok_iff :
    (interpret numbers response).mapError CallProblem.failure = .ok turn ↔
      (200 ≤ response.status ∧ response.status ≤ 299) ∧ turn.role = .assistant ∧
        Response.read numbers response.text = .ok turn.content := by
  rw [← isSuccess_iff, ← interpret_eq_ok_iff]
  cases interpret numbers response with
  | ok reply =>
      change Except.ok reply = Except.ok turn ↔ _
      rw [Except.ok.injEq, Except.ok.injEq]
  | error problem => exact ⟨nofun, nofun⟩

theorem CallProblem.failure_status (code : Nat) (said : String) :
    (CallProblem.status code said).failure =
      .model ("Anthropic error " ++ Text.Numeral.text code ++ " " ++ Status.phrase code ++ ": " ++
        said) := by
  have joined : "Anthropic error " ++ Status.describe code =
      "Anthropic error " ++ Text.Numeral.text code ++ " " ++ Status.phrase code := by
    rw [Status.describe, String.append_assoc, String.append_assoc, String.append_assoc]
  rw [← joined]
  rfl

theorem handling_of_refused
    (outside : ¬(200 ≤ response.status ∧ response.status ≤ 299)) :
    (interpret numbers response).mapError CallProblem.failure =
      .error (.model ("Anthropic error " ++ Text.Numeral.text response.status ++ " " ++
        Status.phrase response.status ++ ": " ++ response.text)) := by
  have refused : ¬Status.isSuccess response.status = true := fun success =>
    outside (isSuccess_iff.mp success)
  have unread : interpret numbers response =
      .error (.status response.status response.text) := by
    simp only [interpret, if_neg refused]
  rw [unread, Except.mapError, CallProblem.failure_status]

theorem handling_of_unreadable
    (unreadable : Unreadable numbers response.text) :
    ∃ reason,
      (interpret numbers response).mapError CallProblem.failure = .error (.model reason) := by
  cases result : interpret numbers response with
  | ok reply =>
      obtain ⟨_, _, read⟩ := interpret_eq_ok_iff.mp result
      exact absurd read (read_ne_ok unreadable)
  | error problem => exact ⟨problem.message, rfl⟩

theorem handled_of_response (response : HttpResponse) :
    Handled numbers response.status response.text
      ((interpret numbers response).mapError CallProblem.failure) := by
  have text : 200 ≤ response.status → response.status ≤ 299 → ∀ members,
      IsObjectText response.text members → ∀ turn,
      (interpret numbers response).mapError CallProblem.failure = .ok turn ↔
        turn.role = .assistant ∧ Holds numbers members turn.content := by
    intro least greatest members isText turn
    rw [handling_eq_ok_iff, read_eq_ok_iff isText]
    exact and_iff_right ⟨least, greatest⟩
  refine ⟨?_, text, ?_, handling_of_refused, handling_of_unreadable⟩
  · intro turn succeeded
    exact (handling_eq_ok_iff.mp succeeded).1
  · intro least greatest members object isText parsed turn
    rw [gives_iff_holds isText parsed]
    exact text least greatest members isText turn

/-- Whatever status and text arrive, the reply is the assistant's turn of all blocks of a successful
response, or a failure of the model that says why there is none. It is such a failure, too, when the
request cannot be sent or no text comes back. There is no other failure. -/
theorem handled_of_reply
    (numbers : NumberReading) (transport : Transport ν) (client : Client) (request : Request)
    (state : ν) :
    (∀ failure, ((model numbers transport client).reply request state).1 = .error failure →
      ∃ reason, failure = .model reason) ∧
    ∀ sent, prepare client.config request = .ok sent →
      (∀ response, (transport.exchange sent state).1 = .ok response →
        Handled numbers response.status response.text
          ((model numbers transport client).reply request state).1) ∧
      ∀ reason, (transport.exchange sent state).1 = .error reason →
        ((model numbers transport client).reply request state).1 = .error (.model reason) := by
  constructor
  · intro failure failed
    exact error_of_reply failed
  · intro sent prepared
    rw [reply_of_prepare prepared]
    constructor
    · intro response arrived
      rw [arrived]
      exact handled_of_response response
    · intro reason failed
      rw [failed]
      rfl

/-- A response with a member besides its content, of which the second block is not interpreted. -/
def spokenBody : String :=
  "\x7b\"id\":null,\"content\":[" ++
  "\x7b\"type\":\"text\",\"text\":\"hello\"\x7d," ++
  "\x7b\"type\":\"x\"\x7d]\x7d"

def spokenMembers : List (Option String × Document) :=
  [(some "id", .null), (some "content", .array [
    .object [(some "type", .string (some "text")), (some "text", .string (some "hello"))],
    .object [(some "type", .string (some "x"))]])]

/-- A response with a result whose content has a text block without its text. -/
def brokenBody : String :=
  "\x7b\"content\":[" ++
  "\x7b\"type\":\"tool_result\",\"tool_use_id\":\"a\",\"content\":[" ++
  "\x7b\"type\":\"text\"\x7d]\x7d]\x7d"

def brokenResult : Document :=
  .object [(some "type", .string (some "tool_result")), (some "tool_use_id", .string (some "a")),
    (some "content", .array [.object [(some "type", .string (some "text"))]])]

def greeting : Request := ⟨"model", [], [], "", 1, []⟩

/-- A transport that has one answer for everything. -/
def always (answer : Except String HttpResponse) : Transport Unit where
  exchange _ state := (answer, state)

/-- What comes of the greeting when that is the answer. -/
def replyTo (answer : Except String HttpResponse) : Except Failure Turn :=
  ((model NumberText.value? (always answer) rehearsedClient).reply greeting ()).1

theorem spokenBody_isText : IsObjectText spokenBody spokenMembers := by
  have named : ∀ member ∈ spokenMembers, member.1.isSome = true := by decide
  exact ⟨rfl, fun member isMember => Option.isSome_iff_exists.mp (named member isMember),
    by decide, by decide⟩

theorem brokenBody_unreadable : Unreadable NumberText.value? brokenBody := by
  have isMembers : Document.read? brokenBody.toList =
      some (.object [(some "content", .array [brokenResult])]) := rfl
  refine .block isMembers List.mem_cons_self List.mem_cons_self ?_
  intro value isValue
  have same : brokenResult.content? NumberText.value? = some (.object [
      ("content", .array [.object [("type", .string "text")]]), ("tool_use_id", .string "a"),
      ("type", .string "tool_result")]) := rfl
  cases same.symm.trans isValue
  refine ⟨.object [("type", .string "text")],
    .content .self rfl rfl List.mem_cons_self, ?_⟩
  rintro block ⟨⟩

/-- The greeting is sent and what comes back is handled: a response that succeeds, the same as a
refusal, one with a broken block, and a connection that was closed. -/
theorem handled_of_reply_greeting :
    (∃ sent, prepare rehearsedClient.config greeting = .ok sent) ∧
    replyTo (.ok ⟨200, spokenBody⟩) =
      .ok (.assistant [.text "hello", .other (.object [("type", .string "x")])]) ∧
    replyTo (.ok ⟨404, spokenBody⟩) =
      .error (.model ("Anthropic error 404 Not Found: " ++ spokenBody)) ∧
    (∃ reason, replyTo (.ok ⟨200, brokenBody⟩) = .error (.model reason)) ∧
    replyTo (.error "connection closed") = .error (.model "connection closed") := by
  have isSent : (prepare rehearsedClient.config greeting).isOk = true := by decide +kernel
  cases prepared : prepare rehearsedClient.config greeting with
  | error problem =>
      rw [prepared] at isSent
      cases isSent
  | ok sent =>
      have reception (answer : Except String HttpResponse) :=
        (handled_of_reply NumberText.value? (always answer) rehearsedClient greeting ()).2 sent
          prepared
      have handles (response : HttpResponse) :
          Handled NumberText.value? response.status response.text (replyTo (.ok response)) :=
        (reception (.ok response)).1 response rfl
      refine ⟨⟨sent, rfl⟩, ?_, ?_, ?_, ?_⟩
      · have handled := handles ⟨200, spokenBody⟩
        refine (handled.text (by decide) (by decide) _ spokenBody_isText _).mpr ⟨rfl, ?_⟩
        exact .blocks (List.mem_cons_of_mem _ List.mem_cons_self) rfl
          (.cons rfl (.cons rfl .nil))
      · have handled := handles ⟨404, spokenBody⟩
        have said : "Anthropic error " ++ Text.Numeral.text 404 ++ " " ++ Status.phrase 404 ++
            ": " ++ spokenBody = "Anthropic error 404 Not Found: " ++ spokenBody := by
          decide +kernel
        rw [← said]
        exact handled.refused (by decide)
      · exact (handles ⟨200, brokenBody⟩).unreadable brokenBody_unreadable
      · exact (reception (.error "connection closed")).2 _ rfl

end Client

end DesktopAgent
