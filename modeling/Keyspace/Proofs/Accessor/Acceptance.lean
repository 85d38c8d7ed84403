import Keyspace.Proofs.Accessor.Listing
import Keyspace.Proofs.Accessor.Raising
import Keyspace.Proofs.Accessor.Replay

/-!
# Documents that are understood

Nothing checks the shape of a document before it is walked over: a member is asked whether it counts
as true, children are walked over whatever they are, and a key is taken for a text. `WellFormed`
says which nodes come through this, without reference to the walk, and `perform_verdict` says that an
operation understands exactly the documents that are as they should be. All other documents and texts
make a parse error, and so do octets that are not of their codec; only a codec that gives no text at
all fails the operation.
-/

namespace Keyspace

/-- A document is an object. -/
def Document.IsObject (document : Document) : Prop := ∃ members, document = .object members

namespace Node

variable {members : List (String × Document)} {document : Document}

/-- A well-formed node is an object. If it is a directory, its children are either nothing (or
something else that counts as false) or a list of well-formed nodes; if it is none, its key is a
text. -/
inductive WellFormed : Document → Prop where
  | empty {members : List (String × Document)} (isDirectory : isDirectory members = true)
      (noChildren : ∀ children, Pairs.find? "nodes" members = some children →
        children.isTruthy = false) :
      WellFormed (.object members)
  | directory {members : List (String × Document)} {items : List Document}
      (isDirectory : isDirectory members = true)
      (areChildren : Pairs.find? "nodes" members = some (.array items))
      (each : ∀ item ∈ items, WellFormed item) : WellFormed (.object members)
  | leaf {members : List (String × Document)} {key : String}
      (notDirectory : isDirectory members = false)
      (isKey : Pairs.find? "key" members = some (.text key)) : WellFormed (.object members)

/-- The leaves below a directory are those below its first member for children, or below nothing. -/
theorem memberLeaves_eq (members : List (String × Document)) :
    memberLeaves members = childLeaves ((Pairs.find? "nodes" members).getD .null) := by
  induction members with
  | nil => rfl
  | cons member later inductionHypothesis =>
    obtain ⟨name, children⟩ := member
    rw [memberLeaves, Pairs.find?]
    split
    · rfl
    · exact inductionHypothesis

/-- Several nodes list leaves when each of them does. -/
theorem exists_listLeaves_iff {items : List Document} :
    (∃ found, listLeaves items = .ok found) ↔
      ∀ item ∈ items, ∃ found, leaves item = .ok found := by
  induction items with
  | nil => simp [listLeaves]
  | cons child later inductionHypothesis =>
    rw [List.forall_mem_cons, ← inductionHypothesis]
    cases isFirst : leaves child with
    | error fault => simp [listLeaves, isFirst, bind, Except.bind]
    | ok first =>
      cases isRest : listLeaves later with
      | error fault => simp [listLeaves, isFirst, isRest, bind, Except.bind]
      | ok rest => simp [listLeaves, isFirst, isRest, bind, Except.bind, pure, Except.pure]

theorem childLeaves_of_isFalse (isFalse : document.isTruthy = false) :
    childLeaves document = .ok [] := by
  cases document <;> simp_all [childLeaves, listLeaves, Document.isTruthy]

theorem exists_items_of_childLeaves {found : List Leaf} (isTrue : document.isTruthy = true)
    (isFound : childLeaves document = .ok found) : ∃ items, document = .array items := by
  cases document <;> simp_all [childLeaves, Document.isTruthy]

/-- Children list leaves when they count as false, or are a list in which each of them does. -/
theorem exists_childLeaves_iff :
    (∃ found, childLeaves document = .ok found) ↔
      document.isTruthy = false ∨
        ∃ items, document = .array items ∧ ∀ item ∈ items, ∃ found, leaves item = .ok found := by
  constructor
  · rintro ⟨found, isFound⟩
    cases isTrue : document.isTruthy with
    | false => exact .inl rfl
    | true =>
      obtain ⟨items, rfl⟩ := exists_items_of_childLeaves isTrue isFound
      exact .inr ⟨items, rfl, exists_listLeaves_iff.1 ⟨found, isFound⟩⟩
  · rintro (isFalse | ⟨items, rfl, each⟩)
    · exact ⟨[], childLeaves_of_isFalse isFalse⟩
    · exact exists_listLeaves_iff.2 each

/-- A leaf is made from the members of every node whose key is a text, and of no other. -/
theorem exists_leaf_iff :
    (∃ leaf, Leaf.ofMembers members = .ok leaf) ↔
      ∃ key, Pairs.find? "key" members = some (.text key) := by
  constructor
  · rintro ⟨leaf, isMade⟩
    obtain ⟨key, isKey, -⟩ := Leaf.exists_key_of_ofMembers isMade
    exact ⟨key, isKey⟩
  · rintro ⟨key, isKey⟩
    exact ⟨{ key := Leaf.withoutSlash key, data := .ofMembers members }, by
      rw [Leaf.ofMembers, isKey]⟩

/-- A document lists leaves exactly when it is a well-formed node. -/
theorem exists_leaves_iff_wellFormed (document : Document) :
    (∃ found, leaves document = .ok found) ↔ WellFormed document := by
  induction document using reached.induct with
  | case1 members isDirectory inductionHypothesis =>
    have each : ∀ item ∈ children members,
        (∃ found, leaves item = .ok found) ↔ WellFormed item := fun item isChild =>
      inductionHypothesis ⟨item, isChild⟩
    rw [leaves, if_pos isDirectory, memberLeaves_eq, exists_childLeaves_iff]
    constructor
    · rintro (isFalse | ⟨items, areItems, listed⟩)
      · refine .empty isDirectory fun children areChildren => ?_
        rwa [areChildren, Option.getD_some] at isFalse
      · have areChildren : Pairs.find? "nodes" members = some (.array items) := by
          cases found : Pairs.find? "nodes" members with
          | none => simp [found] at areItems
          | some document => simpa [found] using areItems
        refine .directory isDirectory areChildren fun item isItem => ?_
        exact (each item (by simpa [children, areChildren, itemsOf] using isItem)).1
          (listed item isItem)
    · rintro (⟨-, noChildren⟩ | ⟨-, areChildren, wellFormed⟩ | ⟨notDirectory, -⟩)
      · left
        cases found : Pairs.find? "nodes" members with
        | none => rfl
        | some document => exact noChildren document found
      · refine .inr ⟨_, by rw [areChildren, Option.getD_some], fun item isItem => ?_⟩
        exact (each item (by simpa [children, areChildren, itemsOf] using isItem)).2
          (wellFormed item isItem)
      · rw [isDirectory] at notDirectory
        cases notDirectory
  | case2 members notDirectory =>
    rw [leaves, if_neg notDirectory]
    have isLeaf : (∃ found, (Leaf.ofMembers members).map (fun leaf => [leaf]) = .ok found) ↔
        ∃ leaf, Leaf.ofMembers members = .ok leaf := by
      cases Leaf.ofMembers members <;> simp [Except.map]
    rw [isLeaf, exists_leaf_iff]
    constructor
    · rintro ⟨key, isKey⟩
      exact .leaf (Bool.eq_false_iff.2 notDirectory) isKey
    · rintro (⟨isDirectory, -⟩ | ⟨isDirectory, -, -⟩ | ⟨-, isKey⟩)
      · exact absurd isDirectory notDirectory
      · exact absurd isDirectory notDirectory
      · exact ⟨_, isKey⟩
  | case3 document notObject =>
    have notFound : ∀ found, leaves document ≠ .ok found := by
      cases document <;> simp_all [leaves]
    refine iff_of_false (not_exists.2 notFound) ?_
    rintro (⟨-, -⟩ | ⟨-, -, -⟩ | ⟨-, -⟩) <;> exact notObject _ rfl

end Node

namespace Answer

variable {key source : String} {members : List (String × Document)}

/-- An answer has a node when the member for it is an object. -/
theorem exists_node_iff :
    (∃ data, node members = .ok data) ↔
      ((Document.object members).memberOrNull "node").IsObject := by
  simp only [Document.memberOrNull, Document.member?, Document.IsObject]
  rcases found : Pairs.find? "node" members with _ | document
  · simp [node, found]
  · cases document <;> simp [node, found]

/-- An answer tells of the node as it was before, or not, unless the member for it is something else
than an object. -/
theorem exists_previous_iff :
    (∃ before, previous members = .ok before) ↔
      (Document.object members).memberOrNull "prevNode" = .null ∨
        ((Document.object members).memberOrNull "prevNode").IsObject := by
  simp only [Document.memberOrNull, Document.member?, Document.IsObject]
  rcases found : Pairs.find? "prevNode" members with _ | document
  · simp [previous, found]
  · cases document <;> simp [previous, found]

/-- An answer lists leaves when there is no node in it, or a well-formed one. -/
theorem exists_listing_iff :
    (∃ leaves, listing members = .ok leaves) ↔
      (Document.object members).memberOrNull "node" = .null ∨
        Node.WellFormed ((Document.object members).memberOrNull "node") := by
  have isObject : ∀ document, Node.WellFormed document → document.IsObject := by
    rintro document (⟨-, -⟩ | ⟨-, -, -⟩ | ⟨-, -⟩) <;> exact ⟨_, rfl⟩
  simp only [Document.memberOrNull, Document.member?]
  rcases found : Pairs.find? "node" members with _ | document
  · simp [listing, found]
  · cases document with
    | null => simp [listing, found]
    | object inner =>
      have listed := Node.exists_leaves_iff_wellFormed (.object inner)
      cases isFound : Node.leaves (.object inner) <;>
        simp_all [listing, Except.mapError]
    | _ =>
      refine iff_of_false (by simp [listing, found]) ?_
      rintro (isNull | wellFormed)
      · cases isNull
      · obtain ⟨inner, isInner⟩ := isObject _ wellFormed
        cases isInner

end Answer

/-- What the document of an answer has to be for an operation to understand it. All of them want an
object; a listing makes do without a node in it, others make do without the node as it was before. -/
def Operation.Understands (operation : Operation) (document : Document) : Prop :=
  document.IsObject ∧
    match operation with
    | .read => (document.memberOrNull "node").IsObject
    | .write .. | .remove => (document.memberOrNull "node").IsObject ∧
        (document.memberOrNull "prevNode" = .null ∨ (document.memberOrNull "prevNode").IsObject)
    | .readTree _ => document.memberOrNull "node" = .null ∨
        Node.WellFormed (document.memberOrNull "node")

/-- The members of an answer give entries when an operation understands the answer. -/
theorem Operation.exists_entries_iff (operation : Operation) (key source : String)
    (members : List (String × Document)) :
    (∃ pairs, operation.entries key source members = .ok pairs) ↔
      operation.Understands (.object members) := by
  have isObject : (Document.object members).IsObject := ⟨members, rfl⟩
  cases operation with
  | read =>
    rw [Understands, and_iff_right isObject, ← Answer.exists_node_iff]
    cases isNode : Answer.node members <;> simp [entries, Answer.ofRead, isNode, Except.map]
  | write value lifetime =>
    rw [Understands, and_iff_right isObject, ← Answer.exists_node_iff, ← Answer.exists_previous_iff]
    cases isNode : Answer.node members <;> cases isPrevious : Answer.previous members <;>
      simp [entries, Answer.ofWrite, isNode, isPrevious, bind, Except.bind, pure, Except.pure]
  | remove =>
    rw [Understands, and_iff_right isObject, ← Answer.exists_node_iff, ← Answer.exists_previous_iff]
    cases isNode : Answer.node members <;> cases isPrevious : Answer.previous members <;>
      simp [entries, Answer.ofRemove, isNode, isPrevious, bind, Except.bind, pure, Except.pure]
  | readTree recursive =>
    rw [Understands, and_iff_right isObject, ← Answer.exists_listing_iff]
    cases isListing : Answer.listing members <;>
      simp [entries, Answer.ofListing, isListing, Except.map]

namespace Accessor

variable {State : Type} {serve : Server State} {accessor : Accessor} {isOpen : Bool} {call : Call}
  {transcript : Transcript State} {attempt : Attempt} {response : Response}

/-- An answer is read when its text denotes a document that the operation understands. -/
theorem exists_readAnswer_iff :
    (∃ entries, accessor.readAnswer attempt response.decoded = .ok entries) ↔
      ∃ text document, response.text? = some text ∧ Json.read text = .ok document ∧
        attempt.operation.Understands document := by
  constructor
  · rintro ⟨entries, isRead⟩
    obtain ⟨members, pairs, isMembers, isPairs, -⟩ := readAnswer_eq_ok_iff.1 isRead
    exact ⟨_, .object members, Response.text?_of_read isMembers, isMembers,
      (Operation.exists_entries_iff _ _ _ _).1 ⟨pairs, isPairs⟩⟩
  · rintro ⟨text, document, isText, isDocument, understands⟩
    obtain ⟨members, rfl⟩ := understands.1
    obtain ⟨pairs, isPairs⟩ :=
      (Operation.exists_entries_iff _ attempt.key accessor.source _).2 understands
    rw [← Response.text_of_decoded (Response.decoded_of_text? isText)] at isDocument
    exact ⟨_, readAnswer_eq_ok_iff.2 ⟨members, pairs, isDocument, isPairs, rfl⟩⟩

/-- A call has sent a request, and an answer is what the server replies to it. -/
def IsAnswered (serve : Server State) (accessor : Accessor) (isOpen : Bool) (call : Call)
    (transcript : Transcript State) (response : Response) : Prop :=
  ∃ request,
    (accessor.perform serve isOpen call transcript).2.requests = transcript.requests ++ [request] ∧
      (serve transcript.server request).1 = .ok response

/-- A call that is answered has made an attempt, which has met the answer. -/
theorem IsAnswered.exists_attempt
    (answered : IsAnswered serve accessor isOpen call transcript response) :
    ∃ attempt, accessor.prepare call = .ok attempt ∧ attempt.operation = call.operation ∧
      (dispatch serve isOpen attempt.request transcript).1 = .ok response := by
  obtain ⟨request, recorded, replied⟩ := answered
  obtain ⟨opened, attempt, prepared, ready⟩ :=
    mem_requestsOf_iff.1 (mem_requestsOf_of_recorded recorded)
  refine ⟨attempt, prepared, (isAttempt_of_prepare prepared).operation, ?_⟩
  rw [ready, opened]
  exact (reply_exchange request).trans replied

/-- What the result of an operation on an answer with success says about the answer. -/
structure Judges (operation : Operation) (response : Response)
    (result : Except Failure (Outcome String)) : Prop where
  /-- There is an outcome without an error for exactly the documents that are understood. -/
  accepted : (∃ outcome, result = .ok outcome ∧ outcome.error = none) ↔
    ∃ text document, response.text? = some text ∧ Json.read text = .ok document ∧
      operation.Understands document
  /-- For every other text, and for octets that are not of their codec, there is one with a parse
  error. -/
  refused : (∃ outcome error, result = .ok outcome ∧ outcome.error = some error ∧
      error.kind = .parse) ↔
    response.decoded? ≠ none ∧ ∀ text, response.text? = some text →
      ∀ document, Json.read text = .ok document → ¬ operation.Understands document
  /-- There is no outcome for exactly the answers whose codec gives no text. -/
  failed : (∃ failure, result = .error failure) ↔ response.decoded? = none

/-- What is concluded from an answer that becomes a text or a fault says whether it is understood. -/
theorem Concludes.judges {outcome : Outcome String} {event : Event}
    (concludes : Concludes accessor attempt (.ok response) outcome event)
    (success : response.status ∈ successStatuses) (isDecoded : response.decoded? ≠ none) :
    Judges attempt.operation response (.ok outcome) := by
  have understands : (∃ entries, accessor.readAnswer attempt response.decoded = .ok entries) ↔ _ :=
    exists_readAnswer_iff
  refine ⟨?_, ?_, by simp [isDecoded]⟩
  · rw [← understands]
    cases concludes with
    | refused noSuccess => exact absurd success noSuccess
    | unusable _ isRead => simp [isRead]
    | understood _ isRead => simp [isRead]
  · have isOther : (∀ text, response.text? = some text → ∀ document,
        Json.read text = .ok document → ¬ attempt.operation.Understands document) ↔
          ¬ ∃ entries, accessor.readAnswer attempt response.decoded = .ok entries := by
      simp [understands]
    rw [and_iff_right isDecoded, isOther]
    cases concludes with
    | refused noSuccess => exact absurd success noSuccess
    | unusable _ isRead => simp [isRead]
    | understood _ isRead => simp [isRead]

/-- An operation understands exactly the documents that are as they should be. To every other text,
and to octets that are not of their codec, it answers with a parse error; only where the codec gives
no text it fails. -/
theorem perform_verdict (answered : IsAnswered serve accessor isOpen call transcript response)
    (success : response.status ∈ successStatuses) :
    Judges call.operation response (accessor.perform serve isOpen call transcript).1 := by
  obtain ⟨attempt, prepared, isOperation, met⟩ := answered.exists_attempt
  by_cases isDecoded : response.decoded? = none
  · have ends : endingFault? (dispatch serve isOpen attempt.request transcript).1 =
        some Fault.noText := by
      rw [met]
      exact if_pos ⟨success, isDecoded⟩
    have noText : response.text? = none := by rw [Response.text?, isDecoded, Option.bind_none]
    rw [perform_of_endingFault prepared ends]
    exact ⟨by simp [noText], by simp [isDecoded], by simp [isDecoded]⟩
  · have goesOn : endingFault? (dispatch serve isOpen attempt.request transcript).1 = none := by
      rw [met]
      exact if_neg (by simp [isDecoded])
    obtain ⟨outcome, performed⟩ := exists_outcome_of_goesOn prepared goesOn
    obtain ⟨same, event, isSame, concluded, -⟩ := exists_attempt_of_perform performed
    obtain rfl : attempt = same := by simpa [prepared] using isSame
    rw [met] at concluded
    rw [performed, ← isOperation]
    exact (concludes_of_conclude concluded).judges success isDecoded

/-- The first reply of a script is the answer to a call that sends a request. -/
theorem isAnswered_of_script {later : Script} (sends : (accessor.requestsOf isOpen call).length = 1) :
    IsAnswered Script.serve accessor isOpen call { server := .ok response :: later } response := by
  obtain ⟨request, isRequest⟩ := List.length_eq_one_iff.1 sends
  exact ⟨request, requests_perform.trans (congrArg _ isRequest), rfl⟩

/-- A node with two directories that are told by something other than a truth value, one of them
with nothing for its children, and with a leaf that is told to be none. -/
def looseNode : Document :=
  .object [("dir", .int 1), ("nodes", .array
    [.object [("dir", .text "yes"), ("nodes", .text "")],
      .object [("dir", .null), ("key", .text "/a"), ("nodes", .bool true)]])]

/-- The law at a listing of this node, which is well-formed. -/
theorem perform_verdict_loose :
    Node.WellFormed looseNode ∧
      ∃ outcome, (standard.perform Script.serve true ⟨.readTree true, .text "d", none⟩
          { server := [.ok (.ofDocument 200 (.object [("node", looseNode)]))] }).1 = .ok outcome ∧
        outcome.error = none := by
  have empty : Node.WellFormed (.object [("dir", .text "yes"), ("nodes", .text "")]) := by
    refine .empty (by decide) fun children areChildren => ?_
    obtain rfl : Document.text "" = children := by simpa [Pairs.find?] using areChildren
    decide
  have leaf : Node.WellFormed
      (.object [("dir", .null), ("key", .text "/a"), ("nodes", .bool true)]) :=
    .leaf (by decide) rfl
  have wellFormed : Node.WellFormed looseNode := .directory (by decide) rfl (by simp [empty, leaf])
  have answered : IsAnswered Script.serve standard true ⟨.readTree true, .text "d", none⟩
      { server := [.ok (.ofDocument 200 (.object [("node", looseNode)]))] }
      (.ofDocument 200 (.object [("node", looseNode)])) :=
    isAnswered_of_script (by decide +kernel)
  have judges := perform_verdict answered (by simp [Response.ofDocument, successStatuses])
  refine ⟨wellFormed, judges.accepted.2 ⟨_, _, Response.text?_ofDocument _ _,
    Json.read_write (by decide +kernel), ⟨_, rfl⟩, .inr wellFormed⟩⟩

/-- An answer with success and a document, in a media type that names base64 for its charset. -/
def base64Response : Response :=
  { Response.ofDocument 200 (.object [("node", .object [("value", .text "v")])]) with
    contentType := some "application/json; charset=base64" }

/-- This answer to a read makes neither an outcome without an error nor one with a parse error. -/
theorem exists_answer_without_verdict :
    base64Response.status ∈ successStatuses ∧
      IsAnswered Script.serve standard true ⟨.read, .text "k", none⟩
        { server := [.ok base64Response] } base64Response ∧
      ¬ ∃ outcome, (standard.perform Script.serve true ⟨.read, .text "k", none⟩
        { server := [.ok base64Response] }).1 = .ok outcome := by
  refine ⟨by decide, isAnswered_of_script (by decide +kernel), ?_⟩
  have failed : (standard.perform Script.serve true ⟨.read, .text "k", none⟩
      { server := [.ok base64Response] }).1 = .error (.fault Fault.noText) := by rfl
  simp [failed]

end Accessor

end Keyspace
