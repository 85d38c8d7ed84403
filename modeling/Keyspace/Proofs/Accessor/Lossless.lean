import Keyspace.Proofs.Accessor.Listing
import Mathlib.Data.List.Nodup

/-!
# Listings without a loss

A listing puts what all of its nodes tell into one flat map, where a value can be written over
another. `listing_lossless` says when none is: when the keys of the nodes are distinct and none is
set aside for metadata. It is the last point of a companion that tells its key from its name, so
that keys may have points, and may look like companions of each other but for the underscore.
-/

namespace Keyspace

namespace Node

variable {source target value other key name : String} {node : List (String × Document)}

/-- The key of a node, with one leading slash removed. -/
def key? (node : List (String × Document)) : Option String :=
  match Pairs.find? "key" node with
  | some (.text key) => some (Leaf.withoutSlash key)
  | _ => none

/-- What a node tells: its value at its key, and at companions of its key those of its members that
are metadata, and where it comes from. -/
inductive Tells (source : String) (node : List (String × Document)) : String → String → Prop where
  | value {key : String} {document : Document} (isKey : key? node = some key)
      (isMember : Pairs.find? "value" node = some document) :
      Tells source node key document.shown
  | field {key name : String} {document : Document} (isKey : key? node = some key)
      (isField : name ∈ NodeData.fieldNames) (isMember : Pairs.find? name node = some document) :
      Tells source node (Companion.key key name) document.shown
  | source {key : String} (isKey : key? node = some key) :
      Tells source node (Companion.key key Companion.sourceName) source

/-- A node is plain when its key is not set aside. -/
def IsPlain (node : List (String × Document)) : Prop :=
  ∀ key ∈ key? node, Companion.isReserved key = false

instance (node : List (String × Document)) : Decidable (IsPlain node) :=
  inferInstanceAs (Decidable (∀ key ∈ key? node, Companion.isReserved key = false))

/-- At a key that is not set aside, a node tells nothing but its value. -/
theorem tells_iff_of_not_isReserved (plain : Companion.isReserved target = false) :
    Tells source node target value ↔
      key? node = some target ∧ (Pairs.find? "value" node).map Document.shown = some value := by
  constructor
  · intro tells
    cases tells with
    | value isKey isMember => exact ⟨isKey, by rw [isMember, Option.map_some]⟩
    | field isKey isField isMember => simp at plain
    | source isKey => simp at plain
  · rintro ⟨isKey, isShown⟩
    obtain ⟨document, isMember, rfl⟩ := Option.map_eq_some_iff.1 isShown
    exact .value isKey isMember

/-- At companions of a key with a name, a plain node tells its member with this name if it is one of
metadata, or where it comes from. Both have to be about its own key. -/
theorem tells_companion_iff (plain : IsPlain node) (noPoint : '.' ∉ name.toList) :
    Tells source node (Companion.key key name) value ↔
      key? node = some key ∧
        (name ∈ NodeData.fieldNames ∧
            (Pairs.find? name node).map Document.shown = some value ∨
          name = Companion.sourceName ∧ value = source) := by
  constructor
  · generalize isTarget : Companion.key key name = target
    intro tells
    cases tells with
    | value isKey isMember =>
      have notReserved := plain target isKey
      rw [← isTarget, Companion.isReserved_key] at notReserved
      cases notReserved
    | @field ownKey ownName document isKey isField isMember =>
      obtain ⟨rfl, rfl⟩ := (Companion.key_eq_key_iff noPoint
        (NodeData.not_mem_fieldNames _ isField)).1 isTarget
      exact ⟨isKey, .inl ⟨isField, by rw [isMember, Option.map_some]⟩⟩
    | @source ownKey isKey =>
      obtain ⟨rfl, rfl⟩ := (Companion.key_eq_key_iff noPoint (by decide)).1 isTarget
      exact ⟨isKey, .inr ⟨rfl, rfl⟩⟩
  · rintro ⟨isKey, ⟨isField, isShown⟩ | ⟨rfl, rfl⟩⟩
    · obtain ⟨document, isMember, rfl⟩ := Option.map_eq_some_iff.1 isShown
      exact .field isKey isField isMember
    · exact .source isKey

theorem sourceName_not_mem_fieldNames : Companion.sourceName ∉ NodeData.fieldNames :=
  fun isField => Answer.ne_of_isMarker (.inl rfl) _ isField rfl

/-- Plain nodes that tell something at one place have one key, and a node tells one thing there. -/
theorem Tells.unique {second : List (String × Document)} (tells : Tells source node target value)
    (also : Tells source second target other) (plain : IsPlain node) (plainSecond : IsPlain second) :
    key? node = key? second ∧ (node = second → value = other) := by
  cases tells with
  | value isKey isMember =>
    obtain ⟨sameKey, isShown⟩ := (tells_iff_of_not_isReserved (plain _ isKey)).1 also
    refine ⟨isKey.trans sameKey.symm, ?_⟩
    rintro rfl
    simpa [isMember] using isShown
  | field isKey isField isMember =>
    obtain ⟨sameKey, same⟩ :=
      (tells_companion_iff plainSecond (NodeData.not_mem_fieldNames _ isField)).1 also
    refine ⟨isKey.trans sameKey.symm, ?_⟩
    rintro rfl
    rcases same with ⟨-, isShown⟩ | ⟨rfl, -⟩
    · simpa [isMember] using isShown
    · exact absurd isField sourceName_not_mem_fieldNames
  | source isKey =>
    obtain ⟨sameKey, same⟩ := (tells_companion_iff plainSecond (by decide)).1 also
    refine ⟨isKey.trans sameKey.symm, fun _ => ?_⟩
    rcases same with ⟨isField, -⟩ | ⟨-, isSource⟩
    · exact absurd isField sourceName_not_mem_fieldNames
    · exact isSource.symm

/-- A leaf adds to a flat map what the node that it is made from tells. -/
theorem mem_entries_iff {leaf : Leaf} (isMade : Leaf.ofMembers node = .ok leaf) :
    (target, value) ∈ leaf.entries source ↔ Tells source node target value := by
  obtain ⟨written, isWritten, rfl⟩ := Leaf.exists_key_of_ofMembers isMade
  have isKey : key? node = some (Leaf.withoutSlash written) := by rw [key?, isWritten]
  simp only [Leaf.entries, NodeData.valueEntry, NodeData.fieldEntries, NodeData.ofMembers,
    List.mem_append, List.mem_map, Option.mem_toList, Option.map_eq_some_iff, List.mem_filterMap,
    List.mem_singleton, Prod.mk.injEq, String.empty_append]
  constructor
  · rintro ((⟨_, ⟨document, isMember, rfl⟩, rfl, rfl⟩ |
      ⟨_, ⟨name, isField, document, isMember, rfl⟩, rfl, rfl⟩) | ⟨rfl, rfl⟩)
    · exact .value isKey isMember
    · exact .field isKey isField isMember
    · exact .source isKey
  · intro tells
    cases tells with
    | value sameKey isMember =>
      obtain rfl := Option.some.inj (isKey.symm.trans sameKey)
      exact .inl (.inl ⟨_, ⟨_, isMember, rfl⟩, rfl, rfl⟩)
    | field sameKey isField isMember =>
      obtain rfl := Option.some.inj (isKey.symm.trans sameKey)
      exact .inl (.inr ⟨_, ⟨_, isField, _, isMember, rfl⟩, rfl, rfl⟩)
    | source sameKey =>
      obtain rfl := Option.some.inj (isKey.symm.trans sameKey)
      exact .inr ⟨rfl, rfl⟩

/-- The leaves made from nodes add what these nodes tell. -/
theorem mem_flatMap_entries_iff {nodes : List (List (String × Document))} {leaves : List Leaf}
    (made : Made nodes leaves) :
    (target, value) ∈ leaves.flatMap (Leaf.entries source) ↔
      ∃ node ∈ nodes, Tells source node target value := by
  constructor
  · intro isEntry
    obtain ⟨leaf, isLeaf, isEntry⟩ := List.mem_flatMap.1 isEntry
    obtain ⟨node, isNode, isMade⟩ := made.exists_node isLeaf
    exact ⟨node, isNode, (mem_entries_iff isMade).1 isEntry⟩
  · rintro ⟨node, isNode, tells⟩
    obtain ⟨leaf, isLeaf, isMade⟩ := made.exists_leaf isNode
    exact List.mem_flatMap.2 ⟨leaf, isLeaf, (mem_entries_iff isMade).2 tells⟩

/-- No node that a document reaches is a directory. -/
theorem isDirectory_of_mem_reached (document : Document) (isNode : node ∈ reached document) :
    isDirectory node = false := by
  induction document using reached.induct with
  | case1 members isDirectory inductionHypothesis =>
    rw [reached_object, if_pos isDirectory] at isNode
    obtain ⟨child, isChild, isNode⟩ := List.mem_flatMap.1 isNode
    exact inductionHypothesis ⟨child, isChild⟩ isNode
  | case2 members notDirectory =>
    rw [reached_object, if_neg notDirectory] at isNode
    obtain rfl := List.mem_singleton.1 isNode
    exact Bool.eq_false_iff.2 notDirectory
  | case3 document notObject =>
    rw [reached] at isNode
    · simp at isNode
    · exact notObject

/-- Nodes of a listing have distinct keys, none of them set aside. -/
structure AreApart (nodes : List (List (String × Document))) : Prop where
  distinct : (nodes.map key?).Nodup
  plain : ∀ node ∈ nodes, IsPlain node

/-- Nodes that are apart never tell something at one place. -/
theorem AreApart.unique {nodes : List (List (String × Document))} (apart : AreApart nodes)
    {first second : List (String × Document)} (isFirst : first ∈ nodes) (isSecond : second ∈ nodes)
    (tells : Tells source first target value) (also : Tells source second target other) :
    first = second ∧ value = other := by
  obtain ⟨sameKey, sameValue⟩ :=
    tells.unique also (apart.plain first isFirst) (apart.plain second isSecond)
  have same : first = second := List.inj_on_of_nodup_map apart.distinct isFirst isSecond sameKey
  exact ⟨same, sameValue same⟩

end Node

namespace Accessor

variable {accessor : Accessor} {directory : String} {response : Response}
  {outcome : Outcome String} {recursive : Bool} {document : Document}

/-- What a listing with success shows when the nodes in its document are apart: its source at its
own marker, and what the nodes tell. -/
theorem Yields.find?_toMap_eq_some_iff
    (yields : Yields accessor (.readTree recursive) directory (.ok response) outcome)
    (isDocument : Json.read response.text = .ok document) (good : outcome.ok = true)
    (apart : Node.AreApart document.listedNodes) {target value : String} :
    outcome.toMap.find? target = some value ↔
      Companion.key directory Companion.sourceName = target ∧ accessor.source = value ∨
        ∃ node ∈ document.listedNodes, Node.Tells accessor.source node target value := by
  obtain ⟨_, same, leaves, ⟨⟩, isSame, made, -, shows⟩ := yields.exists_leaves good
  obtain rfl : document = same := by simpa [isDocument] using isSame
  have told : ∀ value, (target, value) ∈ leaves.flatMap (Leaf.entries accessor.source) ↔
      ∃ node ∈ document.listedNodes, Node.Tells accessor.source node target value := fun _ =>
    Node.mem_flatMap_entries_iff made
  have consistent : ∀ value other,
      (target, value) ∈ leaves.flatMap (Leaf.entries accessor.source) →
      (target, other) ∈ leaves.flatMap (Leaf.entries accessor.source) → value = other := by
    intro value other isEntry isOther
    obtain ⟨first, isFirst, tells⟩ := (told value).1 isEntry
    obtain ⟨second, isSecond, also⟩ := (told other).1 isOther
    exact (apart.unique isFirst isSecond tells also).2
  have isEntry : ∀ value, (Entries.ofList (leaves.flatMap (Leaf.entries accessor.source))).find?
      target = some value ↔ ∃ node ∈ document.listedNodes,
        Node.Tells accessor.source node target value := fun value =>
    (Entries.find?_ofList_eq_some_iff consistent).trans (told value)
  rw [shows target, Option.or_eq_some_iff]
  constructor
  · rintro (isFound | ⟨-, isMarker⟩)
    · exact .inr ((isEntry value).1 isFound)
    · exact .inl (by simpa using isMarker)
  · rintro (⟨rfl, rfl⟩ | isTold)
    · cases isFound : (Entries.ofList (leaves.flatMap (Leaf.entries accessor.source))).find?
        (Companion.key directory Companion.sourceName) with
      | none => exact .inr ⟨rfl, if_pos rfl⟩
      | some other =>
        -- A leaf at the key of the directory tells the same source for it.
        obtain ⟨node, isNode, tells⟩ := (isEntry other).1 isFound
        obtain ⟨-, same⟩ :=
          (Node.tells_companion_iff (apart.plain node isNode) (by decide)).1 tells
        rcases same with ⟨isField, -⟩ | ⟨-, rfl⟩
        · exact absurd isField Node.sourceName_not_mem_fieldNames
        · exact .inl rfl
    · exact .inl ((isEntry value).2 isTold)

/-- A flat map shows all that nodes tell, and besides that nothing but the source at the marker of a
directory. -/
structure ShowsAll (source directory : String) (nodes : List (List (String × Document)))
    (map : Entries String) : Prop where
  /-- No directory is among the nodes, and each of them has a key. -/
  leaf : ∀ node ∈ nodes, Node.isDirectory node = false ∧ ∃ key, Node.key? node = some key
  shown : ∀ target value, map.find? target = some value ↔
    Companion.key directory Companion.sourceName = target ∧ source = value ∨
      ∃ node ∈ nodes, Node.Tells source node target value
  /-- No place has entries of two nodes, or two entries of one node. -/
  unique : ∀ first ∈ nodes, ∀ second ∈ nodes, ∀ target value other,
    Node.Tells source first target value → Node.Tells source second target other →
      first = second ∧ value = other
  noError : map.find? (Companion.key directory Companion.errorName) = none

/-- A listing with success whose nodes have distinct keys, none of them set aside, loses nothing of
what they tell. -/
theorem listing_lossless
    (yields : Yields accessor (.readTree recursive) directory (.ok response) outcome)
    (isDocument : Json.read response.text = .ok document) (good : outcome.ok = true)
    (apart : Node.AreApart document.listedNodes) :
    ShowsAll accessor.source directory document.listedNodes outcome.toMap where
  leaf := by
    intro node isNode
    obtain ⟨_, same, leaves, ⟨⟩, isSame, made, -⟩ := yields.exists_leaves good
    obtain rfl : document = same := by simpa [isDocument] using isSame
    obtain ⟨leaf, -, isMade⟩ := made.exists_leaf isNode
    obtain ⟨key, isKey, -⟩ := Leaf.exists_key_of_ofMembers isMade
    exact ⟨Node.isDirectory_of_mem_reached _ isNode, Leaf.withoutSlash key, by
      rw [Node.key?, isKey]⟩
  shown := fun target value => yields.find?_toMap_eq_some_iff isDocument good apart
  unique := fun first isFirst second isSecond target value other tells also =>
    apart.unique isFirst isSecond tells also
  noError := by
    rw [Option.eq_none_iff_forall_ne_some]
    intro value isShown
    rcases (yields.find?_toMap_eq_some_iff isDocument good apart).1 isShown with
      ⟨same, -⟩ | ⟨node, isNode, tells⟩
    · exact absurd (Companion.key_inj.1 same) (by decide)
    · obtain ⟨-, ⟨isField, -⟩ | ⟨isSource, -⟩⟩ :=
        (Node.tells_companion_iff (apart.plain node isNode) (by decide)).1 tells
      · exact Answer.ne_of_isMarker (.inr rfl) _ isField rfl
      · exact absurd isSource (by decide)

/-- A directory whose address is a URL is listed with success on every answer that lists leaves. -/
theorem exists_listing {url : Url} (members : List (String × Document))
    (isUrl : urlOf (accessor.keyAddress directory) (Operation.readTree recursive).query? = .ok url)
    (plain : Json.isPlain (.object members) = true)
    (isListing : (Answer.listing members).toOption.isSome = true) :
    ∃ outcome, Yields accessor (.readTree recursive) directory
        (.ok (.ofDocument 200 (.object members))) outcome ∧ outcome.ok = true ∧
      Json.read (Response.ofDocument 200 (.object members)).text = .ok (.object members) := by
  obtain ⟨outcome, yields⟩ := exists_yields rfl isUrl rfl
    (.ofDocument 200 (.object members)) (endingFault?_ofDocument _ _)
  have isDocument := Json.read_write plain
  rw [← Response.text_ofDocument 200] at isDocument
  obtain ⟨leaves, isFound⟩ := exists_ok_of_isSome isListing
  have isPairs : (Operation.readTree recursive).entries directory accessor.source members =
      .ok (leaves.flatMap (Leaf.entries accessor.source)) := by
    rw [Operation.entries, Answer.ofListing, isFound]
    rfl
  have good := yields.ok_of_entries (by simp [Response.ofDocument, successStatuses]) isDocument isPairs
  exact ⟨outcome, yields, good, isDocument⟩

/-- The members of nodes whose keys look like metadata of each other. -/
def dottedNodes : List (List (String × Document)) :=
  [[("key", .text "/a"), ("value", .text "1"), ("ttl", .int 5)],
   [("key", .text "/a.ttl"), ("value", .text "2")],
   [("key", .text "/a.source"), ("value", .text "3"), ("createdIndex", .int 7)]]

/-- The members of an answer that lists these nodes, one of them in a directory of its own. -/
def dottedMembers : List (String × Document) :=
  [("node", .object [("dir", .bool true), ("nodes", .array
    ((dottedNodes.take 2).map .object ++
      [.object [("key", .text "/d"), ("dir", .bool true),
        ("nodes", .array ((dottedNodes.drop 2).map .object))]]))])]

/-- The law at keys that look like metadata of each other. -/
theorem listing_lossless_dotted :
    ∃ outcome, Yields standard (.readTree true) "" (.ok (.ofDocument 200 (.object dottedMembers)))
        outcome ∧
      (Document.object dottedMembers).listedNodes = dottedNodes ∧
      ShowsAll standard.source "" dottedNodes outcome.toMap ∧
      outcome.toMap.find? (Companion.key "a" "ttl") = some "5" ∧
      outcome.toMap.find? "a.ttl" = some "2" ∧
      outcome.toMap.find? (Companion.key "a" "source") = some standard.source ∧
      outcome.toMap.find? "a.source" = some "3" := by
  obtain ⟨url, isUrl⟩ : ∃ url, urlOf (standard.keyAddress "") (Operation.readTree true).query? =
      .ok url := exists_ok_of_isSome (by decide +kernel)
  obtain ⟨outcome, yields, good, isDocument⟩ :=
    exists_listing dottedMembers isUrl (by decide +kernel) (by decide +kernel)
  have isListed : (Document.object dottedMembers).listedNodes = dottedNodes := by
    simp [dottedMembers, dottedNodes, Document.listedNodes, Document.memberOrNull,
      Document.member?, Pairs.find?, Node.reached_object, Node.isDirectory, Node.children,
      Node.itemsOf, Document.isTruthy]
  have apart : Node.AreApart (Document.object dottedMembers).listedNodes := by
    rw [isListed]
    exact ⟨by decide +kernel, by decide +kernel⟩
  have showsAll := listing_lossless yields isDocument good apart
  rw [isListed] at showsAll
  have leafKey : Node.key? dottedNodes[0] = some "a" := by decide +kernel
  have lifetime : Node.Tells standard.source dottedNodes[0] (Companion.key "a" "ttl")
      (Document.int 5).shown := .field leafKey (by decide) rfl
  have origin : Node.Tells standard.source dottedNodes[0] (Companion.key "a" Companion.sourceName)
      standard.source := .source leafKey
  have second : Node.Tells standard.source dottedNodes[1] "a.ttl" (Document.text "2").shown :=
    .value (by decide +kernel) rfl
  have third : Node.Tells standard.source dottedNodes[2] "a.source" (Document.text "3").shown :=
    .value (by decide +kernel) rfl
  have shows : ∀ {node target value}, node ∈ dottedNodes →
      Node.Tells standard.source node target value → outcome.toMap.find? target = some value :=
    fun isNode tells => (showsAll.shown _ _).2 (.inr ⟨_, isNode, tells⟩)
  exact ⟨outcome, yields, isListed, showsAll, shows (by simp) lifetime, shows (by simp) second,
    shows (by simp) origin, shows (by simp) third⟩

end Accessor

end Keyspace
