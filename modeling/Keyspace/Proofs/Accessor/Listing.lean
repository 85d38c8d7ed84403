import Keyspace.Proofs.Accessor.Address
import Keyspace.Proofs.Accessor.Performing
import Keyspace.Proofs.Answer
import Keyspace.Proofs.Json.RoundTrip

/-!
# Listings and single reads

A listing goes through the nodes that its document reaches, and adds what each of them tells. A
single read adds what one node tells, and names the source in another place. `listing_merges_reads`
says that both come to the same: the flat map of a listing is that of its directory, with the maps
of single reads of its leaves merged into it in the order of the document.
-/

namespace Keyspace

/-- The members of the nodes that a document lists and that are no directories, in order. -/
def Document.listedNodes (document : Document) : List (List (String × Document)) :=
  Node.reached (document.memberOrNull "node")

namespace Answer

/-- The leaves of a listing are made from the nodes that its document lists. -/
theorem made_listing {members : List (String × Document)} {leaves : List Leaf}
    (isListing : listing members = .ok leaves) :
    Node.Made (Document.object members).listedNodes leaves := by
  unfold listing at isListing
  split at isListing
  · next absent =>
    cases isListing
    simp [Node.Made, Document.listedNodes, Document.memberOrNull, Document.member?, absent,
      Node.reached]
  · next isNull =>
    cases isListing
    simp [Node.Made, Document.listedNodes, Document.memberOrNull, Document.member?, isNull,
      Node.reached]
  · next node isNode =>
    cases isFound : Node.leaves (.object node) with
    | error fault => simp [isFound, Except.mapError] at isListing
    | ok found =>
      simp only [isFound, Except.mapError, Except.ok.injEq] at isListing
      subst isListing
      simpa [Document.listedNodes, Document.memberOrNull, Document.member?, isNode] using
        Node.made_leaves _ isFound
  · simp at isListing

end Answer

namespace Leaf

/-- A node that a leaf is made from has its key, with a slash in front at most. -/
theorem exists_key_of_ofMembers {node : List (String × Document)} {leaf : Leaf}
    (isMade : ofMembers node = .ok leaf) :
    ∃ key, Pairs.find? "key" node = some (.text key) ∧
      leaf = { key := withoutSlash key, data := .ofMembers node } := by
  unfold ofMembers at isMade
  split at isMade
  · simp at isMade
  · next key isKey =>
    cases isMade
    exact ⟨key, isKey, rfl⟩
  · simp at isMade

/-- The entries of a leaf are those of an answer about its key, and its source in the end. -/
theorem entries_eq (source : String) (leaf : Leaf) :
    leaf.entries source = Answer.readEntries leaf.key leaf.data ++
      [(Companion.key leaf.key Companion.sourceName, source)] := rfl

/-- It does not matter where the source of a leaf is told, since nothing else tells it. -/
theorem find?_ofList_entries {leaf : Leaf} (isFromNode : leaf.data.IsFromNode)
    (source target : String) :
    (Entries.ofList (leaf.entries source)).find? target =
      ((Entries.ofList (Answer.readEntries leaf.key leaf.data)).find? target).or
        (if Companion.key leaf.key Companion.sourceName = target then some source else none) := by
  simp only [Entries.find?_ofList, entries_eq, Pairs.valuesAt_append, Pairs.valuesAt_singleton]
  split
  · next isMarker =>
    subst isMarker
    have spares := Answer.spares_marker leaf.key (.inl rfl)
    rw [Answer.valuesAt_readEntries isFromNode spares.field,
      if_neg (Companion.key_ne_owner leaf.key Companion.sourceName).symm]
    rfl
  · simp

end Leaf

namespace Accessor

variable {accessor : Accessor} {operation : Operation} {key directory : String} {reply : Reply}
  {response : Response} {outcome : Outcome String} {recursive : Bool}

/-- An operation about a key met a reply, given by some server in some state, and came to an
outcome. -/
inductive Yields (accessor : Accessor) (operation : Operation) (key : String) (reply : Reply)
    (outcome : Outcome String) : Prop where
  | run {State : Type} (serve : Server State) (isOpen : Bool) (timeout : Option TimeoutSetting)
      (transcript : Transcript State)
      (meets : Meets serve accessor isOpen operation key timeout transcript reply)
      (performed : (accessor.perform serve isOpen ⟨operation, .text key, timeout⟩ transcript).1 =
        .ok outcome)

/-- The reply that an operation met is what its outcome is concluded from. -/
theorem Yields.exists_concludes (yields : Yields accessor operation key reply outcome) :
    ∃ attempt event, attempt.key = key ∧ attempt.operation = operation ∧
      Concludes accessor attempt reply outcome event := by
  obtain ⟨serve, isOpen, timeout, transcript, meets, performed⟩ := yields
  obtain ⟨attempt, event, prepared, concluded, -⟩ := exists_attempt_of_perform performed
  have isAttempt := isAttempt_of_prepare prepared
  obtain rfl : key = attempt.key := by simpa using isAttempt.key
  obtain rfl : attempt.operation = operation := isAttempt.operation
  rw [← Meets.unique meets (meets_dispatch isAttempt)] at concluded
  exact ⟨attempt, event, rfl, rfl, concludes_of_conclude concluded⟩

/-- The outcome of an operation is about the key of the operation. -/
theorem Yields.key_outcome (yields : Yields accessor operation key reply outcome) :
    outcome.key = key := by
  obtain ⟨attempt, event, isKey, -, concludes⟩ := yields.exists_concludes
  exact concludes.about.1.trans isKey

/-- A good outcome has the entries of the members of an answer. -/
theorem Yields.exists_pairs (yields : Yields accessor operation key reply outcome)
    (good : outcome.ok = true) :
    ∃ response members pairs, reply = .ok response ∧
      Json.read response.text = .ok (.object members) ∧
      operation.entries key accessor.source members = .ok pairs ∧
      ∀ target, outcome.toMap.find? target =
        ((Entries.ofList pairs).find? target).or
          (if Companion.key key Companion.sourceName = target then some accessor.source
            else none) := by
  obtain ⟨attempt, event, rfl, rfl, concludes⟩ := yields.exists_concludes
  cases concludes with
  | unanswered _ => simp [Outcome.ok] at good
  | refused noSuccess => simp [Outcome.ok, noSuccess] at good
  | unusable success isRead => simp [Outcome.ok] at good
  | understood success isRead =>
    obtain ⟨members, pairs, isMembers, isPairs, rfl⟩ := readAnswer_eq_ok_iff.1 isRead
    exact ⟨_, members, pairs, rfl, isMembers, isPairs, Outcome.find?_toMap_of_noError rfl⟩

/-- An answer with success comes to a good outcome when its members give entries. -/
theorem Yields.ok_of_entries (yields : Yields accessor operation key (.ok response) outcome)
    (success : response.status ∈ successStatuses) {members : List (String × Document)}
    (isMembers : Json.read response.text = .ok (.object members))
    {pairs : List (String × String)}
    (isPairs : operation.entries key accessor.source members = .ok pairs) : outcome.ok = true := by
  obtain ⟨attempt, event, rfl, rfl, concludes⟩ := yields.exists_concludes
  cases concludes with
  | refused noSuccess => exact absurd success noSuccess
  | unusable _ notRead =>
    have isRead : accessor.readAnswer attempt response.decoded = .ok (Entries.ofList pairs) :=
      readAnswer_eq_ok_iff.2 ⟨members, pairs, isMembers, isPairs, rfl⟩
    rw [isRead] at notRead
    cases notRead
  | understood success _ => simp [Outcome.ok, success]

/-- An outcome that is not good has nothing but its markers. -/
theorem Yields.find?_toMap_of_not_ok (yields : Yields accessor operation key reply outcome)
    (notGood : outcome.ok = false) {target : String}
    (notError : Companion.key key Companion.errorName ≠ target) :
    outcome.toMap.find? target =
      if Companion.key key Companion.sourceName = target then some accessor.source else none := by
  obtain ⟨attempt, event, rfl, rfl, concludes⟩ := yields.exists_concludes
  cases concludes with
  | unanswered _ => exact Outcome.find?_toMap_of_error rfl notError
  | refused _ => exact Outcome.find?_toMap_of_noError rfl target
  | unusable _ _ => exact Outcome.find?_toMap_of_error rfl notError
  | understood success _ => simp [Outcome.ok, success] at notGood

/-- A listing that succeeds has the entries of leaves, which are made from the nodes in the
document of an answer. -/
theorem Yields.exists_leaves (yields : Yields accessor (.readTree recursive) directory reply outcome)
    (good : outcome.ok = true) :
    ∃ response document leaves, reply = .ok response ∧ Json.read response.text = .ok document ∧
      Node.Made document.listedNodes leaves ∧ (∀ leaf ∈ leaves, leaf.data.IsFromNode) ∧
      ∀ target, outcome.toMap.find? target =
        ((Entries.ofList (leaves.flatMap (Leaf.entries accessor.source))).find? target).or
          (if Companion.key directory Companion.sourceName = target then some accessor.source
            else none) := by
  obtain ⟨response, members, pairs, isReply, isMembers, isPairs, shows⟩ := yields.exists_pairs good
  cases isListing : Answer.listing members with
  | error fault => simp [Operation.entries, Answer.ofListing, isListing, Except.map] at isPairs
  | ok leaves =>
    obtain rfl : leaves.flatMap (Leaf.entries accessor.source) = pairs := by
      simpa [Operation.entries, Answer.ofListing, isListing, Except.map] using isPairs
    exact ⟨response, .object members, leaves, isReply, isMembers, Answer.made_listing isListing,
      Answer.isFromNode_of_listing isListing, shows⟩

/-- The outcome of a read on an answer whose document has a node and nothing else; the key that is
read is that of the node, with one leading slash removed. -/
def IsReadOf (accessor : Accessor) (node : List (String × Document)) (read : Outcome String) :
    Prop :=
  ∃ key response, Pairs.find? "key" node = some (.text key) ∧
    response.status ∈ successStatuses ∧
    Json.read response.text = .ok (.object [("node", .object node)]) ∧
    Yields accessor .read (Leaf.withoutSlash key) (.ok response) read

/-- An operation whose address is a URL comes to an outcome on every answer that does not end it. -/
theorem exists_yields {url : Url} {form : Option String}
    (isLifetime : operation.checkLifetime = .ok ())
    (isUrl : urlOf (accessor.keyAddress key) operation.query? = .ok url)
    (isForm : operation.form? = .ok form) (response : Response)
    (goesOn : endingFault? (.ok response) = none) :
    ∃ outcome, Yields accessor operation key (.ok response) outcome := by
  let transcript : Transcript Script := { server := [.ok response] }
  let request : Request :=
    { method := operation.method, url, form, timeout := accessor.timeout }
  have prepared : accessor.prepare ⟨operation, .text key, none⟩ =
      .ok { operation, key, address := accessor.keyAddress key, request := .ok request } :=
    prepare_eq_ok isLifetime rfl isUrl isForm
  have answered : Script.serve transcript.server request = (.ok response, []) := rfl
  have performed := (perform_of_answer prepared rfl answered goesOn).1
  exact ⟨_, .run Script.serve true none transcript (.served request rfl isUrl rfl isForm rfl)
    performed⟩

theorem ok_of_isReadOf {node : List (String × Document)} {read : Outcome String}
    (isReadOf : accessor.IsReadOf node read) : read.ok = true := by
  obtain ⟨key, response, -, success, isDocument, yields⟩ := isReadOf
  exact yields.ok_of_entries success isDocument rfl

/-- The map of a read of a node has what a leaf made from that node adds to a listing. -/
theorem find?_toMap_of_isReadOf {node : List (String × Document)} {leaf : Leaf}
    {read : Outcome String} (isMade : Leaf.ofMembers node = .ok leaf)
    (isReadOf : accessor.IsReadOf node read) (target : String) :
    read.toMap.find? target = (Entries.ofList (leaf.entries accessor.source)).find? target := by
  have good := ok_of_isReadOf isReadOf
  obtain ⟨key, response, isKey, -, isDocument, yields⟩ := isReadOf
  obtain ⟨leafKey, isLeafKey, rfl⟩ := Leaf.exists_key_of_ofMembers isMade
  obtain rfl : leafKey = key := by simpa [isKey] using isLeafKey.symm
  obtain ⟨_, members, pairs, ⟨⟩, isMembers, isPairs, shows⟩ := yields.exists_pairs good
  obtain rfl : members = [("node", .object node)] := by simpa [isDocument] using isMembers.symm
  obtain rfl : Answer.readEntries (Leaf.withoutSlash leafKey) (.ofMembers node) = pairs := by
    simpa [Operation.entries, Answer.ofRead, Answer.node, Pairs.find?, Except.map] using isPairs
  rw [shows target, Leaf.find?_ofList_entries (NodeData.isFromNode_ofMembers node)]

/-- Leaves made from nodes and reads of these nodes have the same values, one after the other. -/
theorem filterMap_reads {nodes : List (List (String × Document))} {leaves : List Leaf}
    {reads : List (Outcome String)} (made : Node.Made nodes leaves)
    (each : List.Forall₂ accessor.IsReadOf nodes reads) (target : String) :
    (reads.map Outcome.toMap).filterMap (fun map => map.find? target) =
      leaves.filterMap fun leaf =>
        (Entries.ofList (leaf.entries accessor.source)).find? target := by
  induction each generalizing leaves with
  | nil =>
    obtain rfl : leaves = [] := by simpa [Node.Made] using made.symm
    rfl
  | cons isReadOf _ inductionHypothesis =>
    obtain ⟨leaf, later, rfl, isMade, madeLater⟩ := List.map_eq_cons_iff.1 made.symm
    simp only [List.map_cons, List.filterMap_cons, inductionHypothesis madeLater.symm,
      find?_toMap_of_isReadOf isMade.symm isReadOf]

/-- A listing that succeeds has, as a flat map, what reads of the nodes in its document have that
are merged one after the other into the source of the directory. Each node has a key to be read,
and the read comes to an outcome on every answer that does not end it, unless the address of the key
is no URL. -/
theorem listing_merges_reads {document : Document}
    (yields : Yields accessor (.readTree recursive) directory (.ok response) outcome)
    (isDocument : Json.read response.text = .ok document) (good : outcome.ok = true) :
    (∀ node ∈ document.listedNodes, ∃ key, Pairs.find? "key" node = some (.text key) ∧
      ∀ url, urlOf (accessor.keyAddress (Leaf.withoutSlash key)) none = .ok url →
        ∀ single, endingFault? (.ok single) = none →
          ∃ read, Yields accessor .read (Leaf.withoutSlash key) (.ok single) read) ∧
    ∀ reads : List (Outcome String), List.Forall₂ accessor.IsReadOf document.listedNodes reads →
      ∀ target, outcome.toMap.find? target =
        ((reads.map Outcome.toMap).foldl Entries.merge
          (Entries.empty.insert (Companion.key directory Companion.sourceName)
            accessor.source)).find? target := by
  obtain ⟨_, same, leaves, ⟨⟩, isSame, made, -, shows⟩ := yields.exists_leaves good
  obtain rfl : document = same := by simpa [isDocument] using isSame
  constructor
  · intro node isNode
    have isMade : Leaf.ofMembers node ∈ leaves.map Except.ok := made ▸ List.mem_map_of_mem isNode
    obtain ⟨leaf, -, isLeaf⟩ := List.mem_map.1 isMade
    obtain ⟨key, isKey, -⟩ := Leaf.exists_key_of_ofMembers isLeaf.symm
    exact ⟨key, isKey, fun url isUrl single goesOn => exists_yields rfl isUrl rfl single goesOn⟩
  · intro reads each target
    rw [shows target, Entries.find?_ofList_flatMap, Entries.find?_foldl_merge,
      Entries.find?_insert, filterMap_reads made each]
    rfl

/-- The members of nodes of which one has the key of another, and one looks like its metadata. -/
def collidingNodes : List (List (String × Document)) :=
  [[("key", .text "/d/a"), ("value", .text "1"), ("ttl", .int 5)],
   [("key", .text "/d/a"), ("createdIndex", .int 7)],
   [("key", .text "/_d/a.ttl"), ("value", .text "6")]]

/-- The members of an answer that lists these nodes, all but one of them in a directory of their
own. -/
def collidingMembers : List (String × Document) :=
  [("node", .object [("key", .text "/d"), ("dir", .bool true), ("nodes", .array
    ((collidingNodes.take 1).map .object ++
      [.object [("dir", .int 1), ("nodes", .array ((collidingNodes.drop 1).map .object))]]))])]

private theorem exists_isReadOf {node : List (String × Document)} {key : String}
    (isKey : Pairs.find? "key" node = some (.text key))
    (plain : Json.isPlain (.object [("node", .object node)]) = true)
    (short : (standard.keyAddress (Leaf.withoutSlash key)).length ≤ Url.lengthLimit) :
    ∃ read, standard.IsReadOf node read := by
  obtain ⟨base, isBase⟩ := exists_isBase_of_create create_standard.1
  have isUrl : urlOf (standard.keyAddress (Leaf.withoutSlash key)) Operation.read.query? =
      .ok { base with path := pathTo (keyPlace (Leaf.withoutSlash key)) } := by
    have noQuery : Operation.read.query? = none := rfl
    rw [noQuery, urlOf_keyAddress isBase create_standard.2, if_pos short]
  have isDocument := Json.read_write plain
  rw [← Response.text_ofDocument 200] at isDocument
  obtain ⟨read, yields⟩ : ∃ read, Yields standard .read (Leaf.withoutSlash key)
      (.ok (.ofDocument 200 (.object [("node", .object node)]))) read :=
    exists_yields rfl isUrl rfl _ (endingFault?_ofDocument _ _)
  exact ⟨read, key, _, isKey, by simp [Response.ofDocument, successStatuses], isDocument, yields⟩

/-- The law at a listing whose leaves collide: the value of the last one is told where the first one
tells its lifetime. -/
theorem listing_merges_reads_colliding :
    ∃ outcome reads, Yields standard (.readTree true) "d"
        (.ok (.ofDocument 200 (.object collidingMembers))) outcome ∧
      (Document.object collidingMembers).listedNodes = collidingNodes ∧
      List.Forall₂ standard.IsReadOf collidingNodes reads ∧
      outcome.toMap.find? "_d/a.ttl" = some "6" ∧
      ∀ target, outcome.toMap.find? target =
        ((reads.map Outcome.toMap).foldl Entries.merge
          (Entries.empty.insert (Companion.key "d" Companion.sourceName)
            standard.source)).find? target := by
  have addressed : (urlOf (standard.keyAddress "d") (Operation.readTree true).query?).toOption.map
      (fun url => url.host.isEmpty) = some false := by decide +kernel
  obtain ⟨url, isUrl, -⟩ := exists_ok_of_toOption addressed
  obtain ⟨outcome, yields⟩ := exists_yields rfl isUrl rfl
    (.ofDocument 200 (.object collidingMembers)) (endingFault?_ofDocument _ _)
  have isDocument : Json.read (Response.ofDocument 200 (.object collidingMembers)).text =
      .ok (.object collidingMembers) := by
    rw [Response.text_ofDocument]
    exact Json.read_write (by decide +kernel)
  have evaluated : ((Operation.readTree true).entries "d" standard.source
      collidingMembers).toOption.map (fun pairs => (Entries.ofList pairs).find? "_d/a.ttl") =
        some (some "6") := by decide +kernel
  obtain ⟨pairs, isPairs, told⟩ := exists_ok_of_toOption evaluated
  have good := yields.ok_of_entries (by decide) isDocument isPairs
  have shown : outcome.toMap.find? "_d/a.ttl" = some "6" := by
    obtain ⟨_, members, samePairs, isReply, isMembers, areSame, shows⟩ := yields.exists_pairs good
    rw [← Except.ok.inj isReply, isDocument] at isMembers
    obtain rfl : collidingMembers = members := by simpa using isMembers
    obtain rfl : pairs = samePairs := by simpa [isPairs] using areSame
    rw [shows, told]
    rfl
  have isListed : (Document.object collidingMembers).listedNodes = collidingNodes := by
    simp [collidingMembers, collidingNodes, Document.listedNodes, Document.memberOrNull,
      Document.member?, Pairs.find?, Node.reached_object, Node.isDirectory, Node.children,
      Node.itemsOf, Document.isTruthy]
  obtain ⟨reads, each⟩ : ∃ reads, List.Forall₂ standard.IsReadOf collidingNodes reads := by
    obtain ⟨first, isFirst⟩ : ∃ read, standard.IsReadOf collidingNodes[0] read :=
      exists_isReadOf rfl (by decide +kernel) (by decide +kernel)
    obtain ⟨second, isSecond⟩ : ∃ read, standard.IsReadOf collidingNodes[1] read :=
      exists_isReadOf rfl (by decide +kernel) (by decide +kernel)
    obtain ⟨third, isThird⟩ : ∃ read, standard.IsReadOf collidingNodes[2] read :=
      exists_isReadOf rfl (by decide +kernel) (by decide +kernel)
    exact ⟨_, .cons isFirst (.cons isSecond (.cons isThird .nil))⟩
  obtain ⟨-, merged⟩ := listing_merges_reads yields isDocument good
  exact ⟨outcome, reads, yields, isListed, each, shown, merged reads (isListed ▸ each)⟩

end Accessor

end Keyspace
