import Keyspace.Answer
import Keyspace.Exchange
import Keyspace.Json.Writer
import Keyspace.Proofs.Node
import Keyspace.Proofs.Text.Utf8

/-!
# What answers about one key add to flat maps

What is filled in from an answer without a fault are the entries of `ofRead` and its like. An answer
to a read, a write or a removal adds entries at the key that was asked for and at companions of it,
whatever the answer says. None of these companions is a marker: the entries at the markers are those
that the flat map itself adds.
-/

namespace Keyspace

/-- The answer with a status whose body is a document. -/
def Response.ofDocument (status : Int) (document : Document) : Response :=
  { status, body := Text.Utf8.encode (Json.writeList document) }

namespace Response

/-- The text of an answer is what its body becomes, if that is no fault. -/
theorem text?_eq_some_iff {response : Response} {text : String} :
    response.text? = some text ↔ response.decoded? = some (.ok text) := by
  rw [text?, Option.bind_eq_some_iff]
  constructor
  · rintro ⟨_ | decoded, isDecoded, isText⟩
    · cases isText
    · rw [isDecoded, ← Option.some.inj isText]
  · intro isDecoded
    exact ⟨_, isDecoded, rfl⟩

theorem decoded_of_text? {response : Response} {text : String}
    (isText : response.text? = some text) : response.decoded = .ok text := by
  rw [decoded, text?_eq_some_iff.1 isText, Option.getD_some]

/-- An answer whose text is that of a document has this text. -/
theorem text?_of_read {response : Response} {document : Document}
    (isDocument : Json.read response.text = .ok document) :
    response.text? = some response.text := by
  cases isText : response.text? with
  | some found => rw [Response.text, isText, Option.getD_some]
  | none =>
    rw [Response.text, isText] at isDocument
    cases isDocument

/-- An answer whose text is that of a document has become this text. -/
theorem decoded_of_read {response : Response} {document : Document}
    (isDocument : Json.read response.text = .ok document) :
    response.decoded = .ok response.text :=
  decoded_of_text? (text?_of_read isDocument)

/-- The text of an answer is what it has become. -/
theorem text_of_decoded {response : Response} {text : String}
    (isText : response.decoded = .ok text) : response.text = text := by
  rw [decoded] at isText
  rw [Response.text, text?]
  cases isDecoded : response.decoded? with
  | none => simpa [isDecoded] using isText
  | some decoded =>
    rw [isDecoded, Option.getD_some] at isText
    rw [isText]
    rfl

/-- An answer that has become a fault has an empty text. -/
theorem text_of_undecoded {response : Response} {fault : Content.DecodingFault}
    (noText : response.decoded = .error fault) : response.text = "" := by
  rw [decoded] at noText
  rw [Response.text, text?]
  cases isDecoded : response.decoded? with
  | none => simp [isDecoded] at noText
  | some decoded =>
    rw [isDecoded, Option.getD_some] at noText
    rw [noText]
    rfl

/-- An answer with a document becomes the document as it was written. -/
theorem decoded?_ofDocument (status : Int) (document : Document) :
    (Response.ofDocument status document).decoded? = some (.ok (Json.write document)) := by
  have codec : Content.codec none {} = .ok (.charset .utf8) := rfl
  simp only [decoded?, ofDocument, Content.decode?, codec, Content.Charset.decode,
    Text.Utf8.decode_encode, Json.write]
  split
  · next noOctets =>
    have noText := congrArg Text.Utf8.decode (List.isEmpty_iff.1 noOctets)
    rw [Text.Utf8.decode_encode] at noText
    rw [noText]
    rfl
  · rfl

@[simp] theorem text?_ofDocument (status : Int) (document : Document) :
    (Response.ofDocument status document).text? = some (Json.write document) :=
  text?_eq_some_iff.2 (decoded?_ofDocument status document)

theorem text_ofDocument (status : Int) (document : Document) :
    (Response.ofDocument status document).text = Json.write document := by
  rw [Response.text, text?_ofDocument, Option.getD_some]

end Response

namespace Answer

/-- The leaves of a listing; one without a node has none. -/
def listing (members : List (String × Document)) : Except AnswerFault (List Leaf) :=
  match Pairs.find? "node" members with
  | none | some .null => .ok []
  | some (.object node) => (Node.leaves (.object node)).mapError .listed
  | some _ => .error .listingNotObject

/-- The entries of an answer to a read. -/
def ofRead (key : String) (members : List (String × Document)) :
    Except AnswerFault (List (String × String)) :=
  (node members).map (readEntries key)

/-- The entries of an answer to a write. -/
def ofWrite (key : String) (members : List (String × Document)) :
    Except AnswerFault (List (String × String)) := do
  let written ← node members
  let before ← previous members
  return readEntries key written ++ before.toList.flatMap (previousEntries key)

/-- The entries of an answer to a removal: the fields of the node, and the node as it was. -/
def ofRemove (key : String) (members : List (String × Document)) :
    Except AnswerFault (List (String × String)) := do
  let removed ← node members
  let before ← previous members
  return removed.fieldEntries key "" ++ before.toList.flatMap (previousEntries key)

/-- The entries of an answer to a listing. -/
def ofListing (source : String) (members : List (String × Document)) :
    Except AnswerFault (List (String × String)) :=
  (listing members).map fun leaves => leaves.flatMap (Leaf.entries source)

theorem result_fillPrevious (key : String) (members : List (String × Document)) :
    (fillPrevious key members).result = (previous members).map fun before =>
      before.toList.flatMap (previousEntries key) := by
  rw [fillPrevious, Progress.result_after]
  cases previous members <;> rfl

theorem result_fillRead (key : String) (members : List (String × Document)) :
    (fillRead key members).result = ofRead key members := by
  rw [fillRead, Progress.result_after]
  cases isNode : node members <;> simp [ofRead, isNode, Except.bind, Except.map]

theorem result_fillWrite (key : String) (members : List (String × Document)) :
    (fillWrite key members).result = ofWrite key members := by
  rw [fillWrite, Progress.result_andThen, result_fillRead, result_fillPrevious]
  cases isNode : node members <;> cases isPrevious : previous members <;>
    simp [ofRead, ofWrite, isNode, isPrevious, Except.map, bind, Except.bind, pure, Except.pure]

theorem result_fillRemove (key : String) (members : List (String × Document)) :
    (fillRemove key members).result = ofRemove key members := by
  rw [fillRemove, Progress.result_andThen, Progress.result_after, result_fillPrevious]
  cases isNode : node members <;> cases isPrevious : previous members <;>
    simp [ofRemove, isNode, isPrevious, Except.map, bind, Except.bind, pure, Except.pure]

theorem result_fillListing (source : String) (members : List (String × Document)) :
    (fillListing source members).result = ofListing source members := by
  rcases found : Pairs.find? "node" members with _ | document
  · simp [fillListing, ofListing, listing, found, Except.map]
  · cases document with
    | object node =>
      simp only [fillListing, ofListing, listing, found, Progress.result_flatMap,
        Progress.result_mapFault, Node.result_walk]
    | _ => simp [fillListing, ofListing, listing, found, Except.map]

variable {key target : String} {data : NodeData} {members : List (String × Document)}

/-- A body has members when it denotes an object. -/
theorem members_eq_ok_iff {body : String} :
    Answer.members body = .ok members ↔ Json.read body = .ok (.object members) := by
  unfold Answer.members
  split
  · next isFault => simp [isFault]
  · next isObject => simp [isObject]
  · next document notObject isDocument =>
    rw [isDocument]
    constructor
    · simp
    · rintro ⟨⟩
      exact absurd rfl (notObject members)

/-- The companion of a key with a name is a marker when it tells the source or the error. -/
def IsMarker (name : String) : Prop := name = Companion.sourceName ∨ name = Companion.errorName

theorem ne_of_isMarker {name : String} (isMarker : IsMarker name) :
    ∀ field ∈ NodeData.fieldNames, field ≠ name := by
  rcases isMarker with rfl | rfl <;> decide +kernel

/-- Nothing about the node as it was before has the name of a marker. -/
theorem previousLabel_append_ne {name : String} (isMarker : IsMarker name) (field : String) :
    previousLabel ++ field ≠ name := by
  intro same
  have first := congrArg (List.head? ∘ String.toList) same
  rcases isMarker with rfl | rfl <;>
    simp [previousLabel, Companion.sourceName, Companion.errorName] at first

/-- The data of an answer comes from a node. -/
theorem isFromNode_of_node (isNode : node members = .ok data) : data.IsFromNode := by
  unfold node at isNode
  split at isNode
  · simp only [Except.ok.injEq] at isNode
    subst isNode
    exact NodeData.isFromNode_ofMembers _
  · simp at isNode

/-- The data of the node as it was before comes from a node. -/
theorem isFromNode_of_previous {before : Option NodeData}
    (isPrevious : previous members = .ok before) : ∀ data ∈ before, data.IsFromNode := by
  unfold previous at isPrevious
  split at isPrevious
  · cases isPrevious
    simp
  · cases isPrevious
    simp
  · cases isPrevious
    rintro data ⟨⟩
    exact NodeData.isFromNode_ofMembers _
  · simp at isPrevious

/-- The data of a listed leaf comes from a node. -/
theorem isFromNode_of_listing {leaves : List Leaf} (isListing : listing members = .ok leaves) :
    ∀ leaf ∈ leaves, leaf.data.IsFromNode := by
  have made : ∀ members leaf, Leaf.ofMembers members = .ok leaf → leaf.data.IsFromNode := by
    intro members leaf isLeaf
    unfold Leaf.ofMembers at isLeaf
    split at isLeaf
    · simp at isLeaf
    · cases isLeaf
      exact NodeData.isFromNode_ofMembers members
    · simp at isLeaf
  unfold listing at isListing
  split at isListing
  · cases isListing
    simp
  · cases isListing
    simp
  · next node _ =>
    cases isFound : Node.leaves (.object node) with
    | error fault => simp [isFound, Except.mapError] at isListing
    | ok found =>
      simp only [isFound, Except.mapError, Except.ok.injEq] at isListing
      subst isListing
      exact Node.forall_mem_leaves made _ isFound
  · simp at isListing

/-- What the data of a node adds at a place that is no field of the key. -/
theorem valuesAt_readEntries (isFromNode : data.IsFromNode)
    (apart : ∀ name ∈ NodeData.fieldNames, Companion.key key name ≠ target) :
    Pairs.valuesAt target (readEntries key data) =
      if key = target then data.value.toList else [] := by
  have noField := NodeData.valuesAt_fieldEntries "" isFromNode (by simpa using apart)
  rw [readEntries, Pairs.valuesAt_append, NodeData.valuesAt_valueEntry, noField, List.append_nil]

/-- The node as it was before adds nothing at a place that is no companion with its label. -/
theorem valuesAt_previousEntries (isFromNode : data.IsFromNode)
    (apart : ∀ name, Companion.key key (previousLabel ++ name) ≠ target) :
    Pairs.valuesAt target (previousEntries key data) = [] := by
  have noField := NodeData.valuesAt_fieldEntries previousLabel isFromNode fun name _ =>
    apart name
  rw [previousEntries, Pairs.valuesAt_append, NodeData.valuesAt_valueEntry, noField,
    if_neg (apart "value"), List.append_nil]

/-- A place is spared by an answer about a key when it is no field of the key, neither of the node
nor of the node as it was before. -/
structure Spares (key target : String) : Prop where
  field : ∀ name ∈ NodeData.fieldNames, Companion.key key name ≠ target
  previous : ∀ name, Companion.key key (previousLabel ++ name) ≠ target

theorem spares_key (key : String) : Spares key key :=
  ⟨fun name _ => Companion.key_ne_owner key name, fun _ => Companion.key_ne_owner key _⟩

theorem spares_marker (key : String) {name : String} (isMarker : IsMarker name) :
    Spares key (Companion.key key name) :=
  ⟨fun field isField => by simpa using ne_of_isMarker isMarker field isField,
    fun field => by simpa using previousLabel_append_ne isMarker field⟩

private theorem valuesAt_previousList {before : Option NodeData} (spares : Spares key target)
    (isPrevious : previous members = .ok before) :
    Pairs.valuesAt target (before.toList.flatMap (previousEntries key)) = [] := by
  cases before with
  | none => rfl
  | some data =>
    have isFromNode := isFromNode_of_previous isPrevious data rfl
    simpa using valuesAt_previousEntries isFromNode spares.previous

/-- An answer to a read has the value of its node at the key, and nothing at another spared
place. -/
theorem valuesAt_ofRead {pairs : List (String × String)} (spares : Spares key target)
    (isRead : ofRead key members = .ok pairs) :
    ∃ data, node members = .ok data ∧
      Pairs.valuesAt target pairs = if key = target then data.value.toList else [] := by
  cases isNode : node members with
  | error fault => simp [ofRead, isNode, Except.map] at isRead
  | ok data =>
    simp only [ofRead, isNode, Except.map, Except.ok.injEq] at isRead
    subst isRead
    exact ⟨data, rfl, valuesAt_readEntries (isFromNode_of_node isNode) spares.field⟩

/-- An answer to a write has the value of its node at the key, and nothing at another spared
place. -/
theorem valuesAt_ofWrite {pairs : List (String × String)} (spares : Spares key target)
    (isWritten : ofWrite key members = .ok pairs) :
    ∃ data, node members = .ok data ∧
      Pairs.valuesAt target pairs = if key = target then data.value.toList else [] := by
  simp only [ofWrite, bind, Except.bind] at isWritten
  split at isWritten
  · simp at isWritten
  next data isNode =>
  split at isWritten
  · simp at isWritten
  next before isPrevious =>
  simp only [pure, Except.pure, Except.ok.injEq] at isWritten
  subst isWritten
  refine ⟨data, isNode, ?_⟩
  rw [Pairs.valuesAt_append, valuesAt_readEntries (isFromNode_of_node isNode) spares.field,
    valuesAt_previousList spares isPrevious, List.append_nil]

/-- An answer to a removal has nothing at a spared place. -/
theorem valuesAt_ofRemove {pairs : List (String × String)} (spares : Spares key target)
    (isRemoved : ofRemove key members = .ok pairs) : Pairs.valuesAt target pairs = [] := by
  simp only [ofRemove, bind, Except.bind] at isRemoved
  split at isRemoved
  · simp at isRemoved
  next data isNode =>
  split at isRemoved
  · simp at isRemoved
  next before isPrevious =>
  simp only [pure, Except.pure, Except.ok.injEq] at isRemoved
  subst isRemoved
  have noField := NodeData.valuesAt_fieldEntries "" (isFromNode_of_node isNode)
    (by simpa using spares.field)
  rw [Pairs.valuesAt_append, noField, valuesAt_previousList spares isPrevious, List.append_nil]

end Answer

end Keyspace
