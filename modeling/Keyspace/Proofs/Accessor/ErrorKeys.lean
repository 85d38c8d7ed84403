import Keyspace.Proofs.Accessor.Acceptance

/-!
# Keys of captured errors

An error that is captured names the key that was asked for, so that a caller can tell what it is
about. `error_key_eq_some_iff` says of which errors this is true: of all but the one that a listing
makes when its walk comes to something that is no node among the children of a directory. The walk
does not know the key, and this is the only error that it makes itself; an error with another cause
is made where the key is known. `Node.Strays` says which documents bring the walk there.
-/

namespace Keyspace

namespace Node

variable {document : Document} {members : List (String × Document)}

/-- Children of a directory that are no list are walked over part by part, if they have parts. -/
def HasParts (children : Document) : Prop :=
  (∃ text, children = .text text ∧ text ≠ "") ∨ ∃ members, children = .object members ∧ members ≠ []

/-- The walk over a node comes to something that is no object, before it comes to anything else that
is wrong. -/
inductive Strays : Document → Prop where
  /-- The children are no list but have parts, which are no objects. -/
  | parts {members : List (String × Document)} {children : Document}
      (isDirectory : isDirectory members = true)
      (areChildren : Pairs.find? "nodes" members = some children) (hasParts : HasParts children) :
      Strays (.object members)
  /-- A child is no object. -/
  | entry {members : List (String × Document)} {before after : List Document} {child : Document}
      (isDirectory : isDirectory members = true)
      (areChildren : Pairs.find? "nodes" members = some (.array (before ++ child :: after)))
      (wellFormed : ∀ item ∈ before, WellFormed item) (notObject : ¬ child.IsObject) :
      Strays (.object members)
  /-- The walk over a child comes to it. -/
  | deeper {members : List (String × Document)} {before after : List Document} {child : Document}
      (isDirectory : isDirectory members = true)
      (areChildren : Pairs.find? "nodes" members = some (.array (before ++ child :: after)))
      (wellFormed : ∀ item ∈ before, WellFormed item) (strays : Strays child) :
      Strays (.object members)

theorem Strays.isObject (strays : Strays document) : document.IsObject := by
  cases strays <;> exact ⟨_, rfl⟩

/-- The walk over an object strays at the parts of its children, at a child, or below one. -/
theorem strays_iff :
    Strays (.object members) ↔ isDirectory members = true ∧
      ∃ children, Pairs.find? "nodes" members = some children ∧
        (HasParts children ∨ ∃ before child after, children = .array (before ++ child :: after) ∧
          (∀ item ∈ before, WellFormed item) ∧ (¬ child.IsObject ∨ Strays child)) := by
  constructor
  · rintro (⟨isDirectory, areChildren, hasParts⟩ |
      ⟨isDirectory, areChildren, wellFormed, notObject⟩ |
      ⟨isDirectory, areChildren, wellFormed, strays⟩)
    · exact ⟨isDirectory, _, areChildren, .inl hasParts⟩
    · exact ⟨isDirectory, _, areChildren, .inr ⟨_, _, _, rfl, wellFormed, .inl notObject⟩⟩
    · exact ⟨isDirectory, _, areChildren, .inr ⟨_, _, _, rfl, wellFormed, .inr strays⟩⟩
  · rintro ⟨isDirectory, children, areChildren,
      hasParts | ⟨before, child, after, rfl, wellFormed, notObject | strays⟩⟩
    · exact .parts isDirectory areChildren hasParts
    · exact .entry isDirectory areChildren wellFormed notObject
    · exact .deeper isDirectory areChildren wellFormed strays

/-- Several nodes have the fault of the first one among them that lists no leaves. -/
theorem listLeaves_eq_error_iff {items : List Document} {fault : NodeFault} :
    listLeaves items = .error fault ↔
      ∃ before child after, items = before ++ child :: after ∧
        (∀ item ∈ before, ∃ found, leaves item = .ok found) ∧ leaves child = .error fault := by
  induction items with
  | nil => simp [listLeaves]
  | cons first later inductionHypothesis =>
    cases isFirst : leaves first with
    | error other =>
      simp only [listLeaves, isFirst, bind, Except.bind, Except.error.injEq]
      constructor
      · rintro rfl
        exact ⟨[], first, later, rfl, by simp, isFirst⟩
      · rintro ⟨_ | ⟨same, before⟩, child, after, isSplit, listed, isFault⟩
        · obtain ⟨rfl, -⟩ := List.cons.inj isSplit
          simpa [isFirst] using isFault
        · obtain ⟨rfl, -⟩ := List.cons.inj isSplit
          simp [isFirst] at listed
    | ok found =>
      have onward :
          listLeaves (first :: later) = .error fault ↔ listLeaves later = .error fault := by
        cases isLater : listLeaves later <;>
        simp [listLeaves, isFirst, isLater, bind, Except.bind, pure, Except.pure]
      rw [onward, inductionHypothesis]
      constructor
      · rintro ⟨before, child, after, rfl, listed, isFault⟩
        exact ⟨first :: before, child, after, rfl, by simpa [isFirst] using listed, isFault⟩
      · rintro ⟨_ | ⟨same, before⟩, child, after, isSplit, listed, isFault⟩
        · obtain ⟨rfl, -⟩ := List.cons.inj isSplit
          simp [isFirst] at isFault
        · obtain ⟨rfl, isLater⟩ := List.cons.inj isSplit
          exact ⟨before, child, after, isLater, fun item isItem => listed item (by simp [isItem]),
            isFault⟩

/-- Children have the fault of what is no object when they have parts, or when the first child that
is not well formed has it. -/
theorem childLeaves_eq_notObject_iff :
    childLeaves document = .error .notObject ↔
      HasParts document ∨ ∃ before child after, document = .array (before ++ child :: after) ∧
        (∀ item ∈ before, WellFormed item) ∧ leaves child = .error .notObject := by
  unfold HasParts
  cases document with
  | array items =>
    simp [childLeaves, listLeaves_eq_error_iff, exists_leaves_iff_wellFormed]
  | text text => by_cases isEmpty : text = "" <;> simp [childLeaves, isEmpty]
  | object members => cases members <;> simp [childLeaves]
  | null => simp [childLeaves]
  | bool value => cases value <;> simp [childLeaves, Document.isTruthy]
  | int value => simp only [childLeaves]; split <;> simp
  | real value => simp only [childLeaves]; split <;> simp

theorem ofMembers_ne_notObject (members : List (String × Document)) :
    Leaf.ofMembers members ≠ .error .notObject := by
  unfold Leaf.ofMembers
  split <;> simp

/-- A document has the fault of what is no object when it is none itself or the walk strays. -/
theorem leaves_eq_notObject_iff (document : Document) :
    leaves document = .error .notObject ↔ ¬ document.IsObject ∨ Strays document := by
  induction document using reached.induct with
  | case1 members isDirectory inductionHypothesis =>
    have isObject : (Document.object members).IsObject := ⟨members, rfl⟩
    rw [leaves, if_pos isDirectory, memberLeaves_eq, childLeaves_eq_notObject_iff, strays_iff]
    simp only [isObject, not_true_eq_false, false_or, isDirectory, true_and]
    cases areChildren : Pairs.find? "nodes" members with
    | none => simp [HasParts]
    | some found =>
      simp only [Option.getD_some, Option.some.injEq, exists_eq_left']
      refine or_congr_right (exists_congr fun before => exists_congr fun child =>
        exists_congr fun after => and_congr_right fun isArray => and_congr_right fun _ => ?_)
      exact inductionHypothesis ⟨child, by simp [children, areChildren, isArray, itemsOf]⟩
  | case2 members notDirectory =>
    rw [leaves, if_neg notDirectory]
    refine iff_of_false ?_ ?_
    · cases isLeaf : Leaf.ofMembers members with
      | ok leaf => simp [Except.map]
      | error fault =>
        have other := ofMembers_ne_notObject members
        rw [isLeaf] at other
        simpa [Except.map] using other
    · rintro (notObject | strays)
      · exact notObject ⟨members, rfl⟩
      · exact notDirectory (strays_iff.1 strays).1
  | case3 document notObject =>
    have isFault : leaves document = .error .notObject := by
      cases document <;> simp_all [leaves]
    refine iff_of_true isFault (.inl ?_)
    rintro ⟨members, isObject⟩
    exact notObject members isObject

end Node

namespace Operation

/-- The walk of an operation over the document of an answer comes to something that is no object.
Only listings walk over nodes. -/
def StraysOn : Operation → Document → Prop
  | .readTree _, document => Node.Strays (document.memberOrNull "node")
  | _, _ => False

end Operation

namespace Answer

variable {members : List (String × Document)}

/-- A listing has the fault of what is no object when the walk over its node strays. -/
theorem listing_eq_notObject_iff :
    listing members = .error (.listed .notObject) ↔
      Node.Strays ((Document.object members).memberOrNull "node") := by
  have onlyObjects : ∀ document, ¬ document.IsObject → ¬ Node.Strays document :=
    fun document notObject strays => notObject strays.isObject
  simp only [Document.memberOrNull, Document.member?]
  rcases found : Pairs.find? "node" members with _ | document
  · refine iff_of_false (by simp [listing, found]) (onlyObjects _ ?_)
    simp [Document.IsObject]
  · cases document with
    | object inner =>
      have isObject : (Document.object inner).IsObject := ⟨inner, rfl⟩
      have walked := Node.leaves_eq_notObject_iff (.object inner)
      simp only [isObject, not_true_eq_false, false_or] at walked
      rw [Option.getD_some, ← walked]
      cases isFound : Node.leaves (.object inner) <;>
        simp [listing, found, isFound, Except.mapError]
    | _ =>
      refine iff_of_false (by simp [listing, found]) (onlyObjects _ ?_)
      simp [Document.IsObject]

theorem node_ne_listed (fault : NodeFault) : node members ≠ .error (.listed fault) := by
  unfold node
  split <;> simp

theorem previous_ne_listed (fault : NodeFault) : previous members ≠ .error (.listed fault) := by
  unfold previous
  split <;> simp

end Answer

/-- An operation has the fault of what is no object when its walk strays. -/
theorem Operation.entries_eq_notObject_iff (operation : Operation) (key source : String)
    (members : List (String × Document)) :
    operation.entries key source members = .error (.listed .notObject) ↔
      operation.StraysOn (.object members) := by
  have noNode : Answer.node members ≠ .error (.listed .notObject) := Answer.node_ne_listed _
  have noPrevious : Answer.previous members ≠ .error (.listed .notObject) :=
    Answer.previous_ne_listed _
  cases operation with
  | read =>
    refine iff_of_false ?_ id
    cases isNode : Answer.node members <;> simp_all [entries, Answer.ofRead, Except.map]
  | write value lifetime =>
    refine iff_of_false ?_ id
    cases isNode : Answer.node members <;> cases isPrevious : Answer.previous members <;>
      simp_all [entries, Answer.ofWrite, bind, Except.bind, pure, Except.pure]
  | remove =>
    refine iff_of_false ?_ id
    cases isNode : Answer.node members <;> cases isPrevious : Answer.previous members <;>
      simp_all [entries, Answer.ofRemove, bind, Except.bind, pure, Except.pure]
  | readTree recursive =>
    rw [StraysOn, ← Answer.listing_eq_notObject_iff]
    cases isListing : Answer.listing members <;>
      simp [entries, Answer.ofListing, isListing, Except.map]

/-- The error for a cause names the key, unless the cause is that something listed is no object. -/
theorem AnswerFault.key_error (fault : AnswerFault) (key : String) :
    (fault.error key).key = if fault = .listed .notObject then none else some key := by
  rcases fault with ⟨_, _⟩ | ⟨_, _⟩ | _ | _ | _ | _ | (_ | _ | _ | _)
  case undecodable =>
    simp only [error]
    split <;> rfl
  all_goals rfl

namespace Accessor

variable {State : Type} {serve : Server State} {accessor : Accessor} {isOpen : Bool} {call : Call}
  {transcript : Transcript State} {attempt : Attempt} {response : Response}

/-- An answer has the fault of what is no object when its text denotes a document on which the
operation strays. -/
theorem readAnswer_eq_notObject_iff :
    accessor.readAnswer attempt response.decoded = .error (.listed .notObject) ↔
      ∃ document, Json.read response.text = .ok document ∧
        attempt.operation.StraysOn document := by
  have onlyObjects : ∀ document, attempt.operation.StraysOn document → document.IsObject := by
    intro document strays
    cases isOperation : attempt.operation with
    | readTree recursive =>
      rw [isOperation] at strays
      obtain ⟨inner, isInner⟩ := Node.Strays.isObject strays
      cases document <;> simp_all [Document.memberOrNull, Document.member?, Document.IsObject]
    | _ => simp [isOperation, Operation.StraysOn] at strays
  rcases isDocument : Json.read response.text with fault | document
  · cases isText : response.decoded with
    | error noText => simp [readAnswer, Except.mapError, bind, Except.bind]
    | ok text =>
      rw [Response.text_of_decoded isText] at isDocument
      simp [readAnswer, Except.mapError, Answer.members, isDocument, bind, Except.bind]
  rw [Response.decoded_of_read isDocument]
  simp only [Except.ok.injEq, exists_eq_left']
  by_cases isObject : document.IsObject
  · obtain ⟨members, rfl⟩ := isObject
    have isMembers : Answer.members response.text = .ok members :=
      Answer.members_eq_ok_iff.2 isDocument
    rw [← Operation.entries_eq_notObject_iff attempt.operation attempt.key accessor.source]
    cases isPairs : attempt.operation.entries attempt.key accessor.source members <;>
      simp [readAnswer, Except.mapError, isMembers, isPairs, bind, Except.bind, pure, Except.pure]
  · have refused : Answer.members response.text = .error .notObject := by
      cases document <;> simp_all [Answer.members, Document.IsObject]
    refine iff_of_false ?_ fun strays => isObject (onlyObjects document strays)
    simp [readAnswer, Except.mapError, refused, bind, Except.bind]

/-- An attempt that has met an answer has been answered. -/
theorem isAnswered_of_dispatch (prepared : accessor.prepare call = .ok attempt)
    (met : (dispatch serve isOpen attempt.request transcript).1 = .ok response) :
    IsAnswered serve accessor isOpen call transcript response := by
  cases ready : attempt.request with
  | error fault => simp [ready, dispatch] at met
  | ok request =>
    cases isOpen with
    | false => simp [ready, dispatch] at met
    | true =>
      refine ⟨request, ?_, ?_⟩
      · simp only [requests_perform, prepared, ready]
        rfl
      · rw [ready] at met
        exact (reply_exchange request).symm.trans met

/-- A call is answered with success and a document on which its operation strays. -/
def IsAstray (serve : Server State) (accessor : Accessor) (isOpen : Bool) (call : Call)
    (transcript : Transcript State) : Prop :=
  ∃ response document, IsAnswered serve accessor isOpen call transcript response ∧
    response.status ∈ successStatuses ∧ Json.read response.text = .ok document ∧
    call.operation.StraysOn document

/-- A call is astray when the answer that it meets is. -/
theorem isAstray_iff (prepared : accessor.prepare call = .ok attempt) :
    IsAstray serve accessor isOpen call transcript ↔
      ∃ response, (dispatch serve isOpen attempt.request transcript).1 = .ok response ∧
        response.status ∈ successStatuses ∧
        accessor.readAnswer attempt response.decoded = .error (.listed .notObject) := by
  have isOperation := (isAttempt_of_prepare prepared).operation
  simp only [readAnswer_eq_notObject_iff, isOperation]
  constructor
  · rintro ⟨response, document, answered, success, isDocument, strays⟩
    obtain ⟨same, isSame, -, met⟩ := answered.exists_attempt
    obtain rfl : attempt = same := by simpa [prepared] using isSame
    exact ⟨response, met, success, document, isDocument, strays⟩
  · rintro ⟨response, met, success, document, isDocument, strays⟩
    exact ⟨response, document, isAnswered_of_dispatch prepared met, success, isDocument, strays⟩

/-- A captured error names the key that was asked for, unless the walk over the document of a
listing comes to something that is no object; then it names none. -/
theorem error_key_eq_some_iff {operation : Operation} {key : String}
    {timeout : Option TimeoutSetting} {outcome : Outcome String} {error : AccessError}
    (performed : (accessor.perform serve isOpen ⟨operation, .text key, timeout⟩ transcript).1 =
      .ok outcome) (captured : outcome.error = some error) :
    (error.key = some key ↔
      ¬ IsAstray serve accessor isOpen ⟨operation, .text key, timeout⟩ transcript) ∧
    (error.key = none ↔
      IsAstray serve accessor isOpen ⟨operation, .text key, timeout⟩ transcript) := by
  obtain ⟨attempt, event, prepared, concluded, -⟩ := exists_attempt_of_perform performed
  obtain rfl : key = attempt.key := by simpa using (isAttempt_of_prepare prepared).key
  rw [isAstray_iff prepared]
  have concludes := concludes_of_conclude concluded
  generalize (dispatch serve isOpen attempt.request transcript).1 = reply at concludes
  cases concludes with
  | unanswered _ =>
    obtain rfl := Option.some.inj captured
    simp [requestError]
  | refused _ => cases captured
  | @unusable response fault success isRead =>
    obtain rfl := Option.some.inj captured
    simp only [Except.ok.injEq, exists_eq_left', success, true_and, isRead, Except.error.injEq,
      fault.key_error]
    by_cases astray : fault = .listed .notObject <;> simp [astray]
  | understood _ _ => cases captured

/-- A directory with a leaf that has no key, and something that is no object behind it. -/
def keylessNode : Document :=
  .object [("dir", .bool true), ("nodes", .array
    [.object [("dir", .bool true)], .object [("value", .text "1")], .int 1])]

/-- A directory with something that is no object behind a leaf. -/
def strayNode : Document :=
  .object [("dir", .bool true), ("nodes", .array
    [.object [("key", .text "/d/a"), ("value", .text "1")], .int 1])]

/-- The answer that lists a node. -/
def nodeResponse (node : Document) : Response := .ofDocument 200 (.object [("node", node)])

/-- The law at a listing whose walk is ended by the leaf: the error names the directory. -/
theorem error_key_eq_some_iff_keyless :
    ∃ outcome error, (standard.perform Script.serve true ⟨.readTree true, .text "d", none⟩
        { server := [.ok (nodeResponse keylessNode)] }).1 = .ok outcome ∧
      outcome.error = some error ∧ error.key = some "d" ∧
      ¬ IsAstray Script.serve standard true ⟨.readTree true, .text "d", none⟩
        { server := [.ok (nodeResponse keylessNode)] } := by
  have evaluated : (standard.perform Script.serve true ⟨.readTree true, .text "d", none⟩
      { server := [.ok (nodeResponse keylessNode)] }).1.toOption.map
        (fun outcome => outcome.error.map AccessError.key) = some (some (some "d")) := by
    decide +kernel
  obtain ⟨outcome, performed, isKey⟩ := exists_ok_of_toOption evaluated
  obtain ⟨error, captured, isKey⟩ := Option.map_eq_some_iff.1 isKey
  have law := error_key_eq_some_iff performed captured
  exact ⟨outcome, error, performed, captured, isKey, law.1.1 isKey⟩

/-- The error of this listing does not name the directory. -/
theorem exists_error_without_key :
    ∃ outcome error, (standard.perform Script.serve true ⟨.readTree true, .text "d", none⟩
        { server := [.ok (nodeResponse strayNode)] }).1 = .ok outcome ∧
      outcome.error = some error ∧ error.key ≠ some "d" := by
  have evaluated : (standard.perform Script.serve true ⟨.readTree true, .text "d", none⟩
      { server := [.ok (nodeResponse strayNode)] }).1.toOption.map
        (fun outcome => outcome.error.map AccessError.key) = some (some none) := by decide +kernel
  obtain ⟨outcome, performed, isKey⟩ := exists_ok_of_toOption evaluated
  obtain ⟨error, captured, noKey⟩ := Option.map_eq_some_iff.1 isKey
  exact ⟨outcome, error, performed, captured, by simp [noKey]⟩

end Accessor

end Keyspace
