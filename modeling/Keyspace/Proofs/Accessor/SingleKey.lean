import Keyspace.Proofs.Accessor.Metadata

/-!
# What the maps of single keys tell

An operation about one key puts the node of its answer into a flat map: the value at the key, and all
else at companions of the key. `map_describes_node` says that the map is exactly this, for every key,
so that the node can be read off again: its metadata, and the value with which it was left.
-/

namespace Keyspace

namespace Entries

variable {α : Type} {entries : Entries α} {key : String} {value : Option α}

/-- Entries that have at most one key are a list of one entry, or of none. -/
theorem pairs_eq_of_find? (onlyKey : ∀ target,
    entries.find? target = if target = key then value else none) :
    entries.pairs = (value.map fun value => (key, value)).toList := by
  obtain ⟨pairs, distinct⟩ := entries
  simp only [find?] at onlyKey
  cases pairs with
  | nil =>
    have noValue := onlyKey key
    rw [if_pos rfl] at noValue
    simp [← noValue, Pairs.find?]
  | cons first later =>
    obtain ⟨present, found⟩ := first
    have isFound := onlyKey present
    rw [Pairs.find?, if_pos rfl] at isFound
    by_cases same : present = key
    · subst same
      rw [if_pos rfl] at isFound
      cases later with
      | nil => simp [← isFound]
      | cons second others =>
        -- Another key would have a value as well.
        obtain ⟨other, otherFound⟩ := second
        have apart : present ≠ other := fun same => by simp [Pairs.keys, same] at distinct
        have isOther := onlyKey other
        simp [Pairs.find?, apart, Ne.symm apart] at isOther
    · simp [same] at isFound

end Entries

namespace NodeData

variable {members : List (String × Document)} {key label target value : String}

/-- The value of a node is added at the key. -/
theorem mem_valueEntry_iff :
    (target, value) ∈ (ofMembers members).valueEntry key ↔
      target = key ∧ (Pairs.find? "value" members).map Document.shown = some value := by
  simp only [valueEntry, ofMembers, List.mem_map, Option.mem_toList, Prod.mk.injEq]
  constructor
  · rintro ⟨_, isShown, rfl, rfl⟩
    exact ⟨rfl, isShown⟩
  · rintro ⟨rfl, isShown⟩
    exact ⟨_, isShown, rfl, rfl⟩

/-- The fields of a node are added at companions of the key. -/
theorem mem_fieldEntries_iff :
    (target, value) ∈ (ofMembers members).fieldEntries key label ↔
      ∃ name ∈ fieldNames, ∃ document, Pairs.find? name members = some document ∧
        target = Companion.key key (label ++ name) ∧ value = document.shown := by
  simp only [fieldEntries, ofMembers, List.mem_map, List.mem_filterMap, Option.map_eq_some_iff,
    Prod.mk.injEq]
  constructor
  · rintro ⟨_, ⟨name, isField, document, isMember, rfl⟩, rfl, rfl⟩
    exact ⟨name, isField, document, isMember, rfl, rfl⟩
  · rintro ⟨name, isField, document, isMember, rfl, rfl⟩
    exact ⟨_, ⟨name, isField, document, isMember, rfl⟩, rfl, rfl⟩

end NodeData

namespace Answer

variable {members node before : List (String × Document)} {data : NodeData}
  {key name target value other : String}

/-- What an answer recalls of the node as it was before: those of its members that are metadata, and
its value. -/
inductive Recalls (before : List (String × Document)) : String → String → Prop where
  | field {name : String} {document : Document} (isField : name ∈ NodeData.fieldNames)
      (isMember : Pairs.find? name before = some document) :
      Recalls before (previousLabel ++ name) document.shown
  | value {document : Document} (isMember : Pairs.find? "value" before = some document) :
      Recalls before (previousLabel ++ "value") document.shown

/-- What is recalled has a point in its name, unlike what describes a node. -/
theorem Recalls.hasPoint (recalls : Recalls before name value) : '.' ∈ name.toList := by
  cases recalls <;> simp [previousLabel]

/-- One thing is recalled under a name. -/
theorem Recalls.unique (recalls : Recalls before name value) (also : Recalls before name other) :
    value = other := by
  have ofMember : ∀ {name value}, Recalls before name value →
      ∃ own document, name = previousLabel ++ own ∧ Pairs.find? own before = some document ∧
        value = document.shown := by
    intro name value recalls
    cases recalls with
    | field _ isMember => exact ⟨_, _, rfl, isMember, rfl⟩
    | value isMember => exact ⟨_, _, rfl, isMember, rfl⟩
  obtain ⟨own, document, rfl, isMember, rfl⟩ := ofMember recalls
  obtain ⟨otherOwn, otherDocument, sameName, isOther, rfl⟩ := ofMember also
  obtain rfl : own = otherOwn := (String.append_right_inj previousLabel).1 sameName
  obtain rfl : document = otherDocument := Option.some.inj (isMember.symm.trans isOther)
  rfl

/-- The node as it was before adds what is recalled of it. -/
theorem mem_previousEntries_iff :
    (target, value) ∈ previousEntries key (NodeData.ofMembers before) ↔
      ∃ name, target = Companion.key key name ∧ Recalls before name value := by
  rw [previousEntries, List.mem_append, NodeData.mem_fieldEntries_iff, NodeData.mem_valueEntry_iff]
  constructor
  · rintro (⟨name, isField, document, isMember, rfl, rfl⟩ | ⟨rfl, isShown⟩)
    · exact ⟨_, rfl, .field isField isMember⟩
    · obtain ⟨document, isMember, rfl⟩ := Option.map_eq_some_iff.1 isShown
      exact ⟨_, rfl, .value isMember⟩
  · rintro ⟨name, rfl, recalls⟩
    cases recalls with
    | field isField isMember => exact .inl ⟨_, isField, _, isMember, rfl, rfl⟩
    | value isMember => exact .inr ⟨rfl, by rw [isMember, Option.map_some]⟩

/-- The node as it was before, if an answer tells of it. -/
def previousNode? (members : List (String × Document)) : Option (List (String × Document)) :=
  match Pairs.find? "prevNode" members with
  | some (.object before) => some before
  | _ => none

/-- The data of an answer is that of its node. -/
theorem exists_node (isNode : Answer.node members = .ok data) :
    ∃ node, Pairs.find? "node" members = some (.object node) ∧ data = .ofMembers node := by
  unfold Answer.node at isNode
  split at isNode
  · next node isMember =>
    cases isNode
    exact ⟨node, isMember, rfl⟩
  · simp at isNode

/-- The data of the node as it was before is that of the node that is told of. -/
theorem eq_of_previous {before : Option NodeData} (isPrevious : previous members = .ok before) :
    before = (previousNode? members).map NodeData.ofMembers := by
  unfold previous at isPrevious
  unfold previousNode?
  split at isPrevious <;> simp_all

end Answer

namespace Operation

variable {operation : Operation} {members node : List (String × Document)}
  {pairs : List (String × String)} {source key target name value other : String}

/-- The value that an operation leaves at a key: none where the key is removed. -/
def value? (operation : Operation) (node : List (String × Document)) : Option String :=
  match operation with
  | .remove => none
  | _ => (Pairs.find? "value" node).map Document.shown

/-- The node as it was before, for an operation that changes it. -/
def before? (operation : Operation) (members : List (String × Document)) :
    Option (List (String × Document)) :=
  match operation with
  | .write .. | .remove => Answer.previousNode? members
  | _ => none

/-- What an answer tells about a key besides its value: what describes its node, and what is recalled
of the node as it was before. -/
inductive Describes (operation : Operation) (source : String)
    (members node : List (String × Document)) (name value : String) : Prop where
  | now (describes : Node.Describes source node name value)
  | before {before : List (String × Document)} (isBefore : operation.before? members = some before)
      (recalls : Answer.Recalls before name value)

/-- One thing is told under a name. -/
theorem Describes.unique (describes : operation.Describes source members node name value)
    (also : operation.Describes source members node name other) : value = other := by
  cases describes with
  | now describes =>
    cases also with
    | now also =>
      cases describes with
      | source =>
        cases also with
        | source => rfl
        | field isField _ => exact absurd isField Node.sourceName_not_mem_fieldNames
      | field isField isMember =>
        cases also with
        | source => exact absurd isField Node.sourceName_not_mem_fieldNames
        | field _ isOther => exact congrArg _ (Option.some.inj (isMember.symm.trans isOther))
    | before _ recalls => exact absurd recalls.hasPoint describes.noPoint
  | before isBefore recalls =>
    cases also with
    | now also => exact absurd recalls.hasPoint also.noPoint
    | before isOther also =>
      cases isBefore.symm.trans isOther
      exact recalls.unique also

/-- What an answer shows: the value at the key, and at companions of the key what is told besides. -/
def Shows (operation : Operation) (source key : String) (members node : List (String × Document))
    (target value : String) : Prop :=
  target = key ∧ operation.value? node = some value ∨
    ∃ name, target = Companion.key key name ∧ operation.Describes source members node name value

/-- One thing is shown at a place. -/
theorem Shows.unique (shows : operation.Shows source key members node target value)
    (also : operation.Shows source key members node target other) : value = other := by
  rcases shows with ⟨rfl, isValue⟩ | ⟨name, rfl, describes⟩
  · rcases also with ⟨-, isOther⟩ | ⟨name, isCompanion, -⟩
    · exact Option.some.inj (isValue.symm.trans isOther)
    · exact absurd isCompanion.symm (Companion.key_ne_owner _ _)
  · rcases also with ⟨isCompanion, -⟩ | ⟨otherName, sameCompanion, alsoDescribes⟩
    · exact absurd isCompanion (Companion.key_ne_owner _ _)
    · obtain rfl := Companion.key_inj.1 sameCompanion
      exact describes.unique alsoDescribes

variable {texts : Entries String}

/-- A map that has what an answer shows has its value at the key. -/
theorem find?_key_of_shows (shows : ∀ target shown, texts.find? target = some shown ↔
      operation.Shows source key members node target shown) :
    texts.find? key = operation.value? node := by
  refine Option.ext fun shown => (shows key shown).trans ⟨?_, fun isLeft => .inl ⟨rfl, isLeft⟩⟩
  rintro (⟨-, isLeft⟩ | ⟨name, isCompanion, -⟩)
  · exact isLeft
  · exact absurd isCompanion.symm (Companion.key_ne_owner _ _)

/-- A map that has what an answer shows has at companions of the key what is told besides. -/
theorem find?_companion_of_shows (shows : ∀ target shown, texts.find? target = some shown ↔
      operation.Shows source key members node target shown) {shown : String} :
    texts.find? (Companion.key key name) = some shown ↔
      operation.Describes source members node name shown := by
  refine (shows _ shown).trans ⟨?_, fun describes => .inr ⟨name, rfl, describes⟩⟩
  rintro (⟨isKey, -⟩ | ⟨other, sameCompanion, describes⟩)
  · exact absurd isKey (Companion.key_ne_owner key name)
  · obtain rfl := Companion.key_inj.1 sameCompanion
    exact describes

/-- The only property in the configuration of such a map is the value at the key, if the key is not set
aside. -/
theorem properties_of_shows (shows : ∀ target shown, texts.find? target = some shown ↔
      operation.Shows source key members node target shown) (sources : List String)
    (notReserved : Companion.isReserved key = false) :
    (Configuration.ofTexts texts sources).properties.pairs =
      ((operation.value? node).map fun shown => (key, Document.text shown)).toList := by
  have onlyKey : ∀ target, (Configuration.ofTexts texts sources).properties.find? target =
      if target = key then (operation.value? node).map .text else none := by
    intro target
    have isEntry : (Configuration.ofTexts texts sources).entries.find? target =
        (texts.find? target).map .text := Entries.find?_mapValues _ _ _
    rw [Configuration.find?_properties, isEntry]
    by_cases isKey : target = key
    · subst isKey
      simp [notReserved, find?_key_of_shows shows]
    · rw [if_neg isKey]
      split
      · rfl
      · next plain =>
        rw [Option.map_eq_none_iff, Option.eq_none_iff_forall_ne_some]
        intro shown isShown
        rcases (shows target shown).1 isShown with ⟨same, -⟩ | ⟨name, rfl, -⟩
        · exact isKey same
        · simp at plain
  rw [Entries.pairs_eq_of_find? onlyKey, Option.map_map]
  rfl

/-- The entries of an answer about one key: the value that is left at the key, the fields of the node,
and the node as it was before. -/
theorem exists_node_of_entries (single : ∀ recursive, operation ≠ .readTree recursive)
    (isPairs : operation.entries key source members = .ok pairs) :
    ∃ node, Pairs.find? "node" members = some (.object node) ∧
      pairs = (operation.value? node).toList.map (fun value => (key, value)) ++
        (NodeData.ofMembers node).fieldEntries key "" ++
        (operation.before? members).toList.flatMap fun before =>
          Answer.previousEntries key (NodeData.ofMembers before) := by
  cases operation with
  | readTree recursive => exact absurd rfl (single recursive)
  | read =>
    cases isNode : Answer.node members with
    | error fault => simp [entries, Answer.ofRead, isNode, Except.map] at isPairs
    | ok data =>
      obtain ⟨node, isMember, rfl⟩ := Answer.exists_node isNode
      simp only [entries, Answer.ofRead, isNode, Except.map, Except.ok.injEq] at isPairs
      exact ⟨node, isMember, by simp [← isPairs, Answer.readEntries, NodeData.valueEntry,
        NodeData.ofMembers, value?, before?]⟩
  | write _ _ =>
    simp only [entries, Answer.ofWrite, bind, Except.bind] at isPairs
    split at isPairs
    · simp at isPairs
    next data isNode =>
    split at isPairs
    · simp at isPairs
    next before isPrevious =>
    simp only [pure, Except.pure, Except.ok.injEq] at isPairs
    obtain ⟨node, isMember, rfl⟩ := Answer.exists_node isNode
    refine ⟨node, isMember, ?_⟩
    rw [← isPairs, Answer.eq_of_previous isPrevious, Option.toList_map, List.flatMap_map]
    rfl
  | remove =>
    simp only [entries, Answer.ofRemove, bind, Except.bind] at isPairs
    split at isPairs
    · simp at isPairs
    next data isNode =>
    split at isPairs
    · simp at isPairs
    next before isPrevious =>
    simp only [pure, Except.pure, Except.ok.injEq] at isPairs
    obtain ⟨node, isMember, rfl⟩ := Answer.exists_node isNode
    refine ⟨node, isMember, ?_⟩
    rw [← isPairs, Answer.eq_of_previous isPrevious, Option.toList_map, List.flatMap_map]
    rfl

/-- An answer about one key shows its entries and the source, and nothing else. -/
theorem exists_shows_iff (single : ∀ recursive, operation ≠ .readTree recursive)
    (isPairs : operation.entries key source members = .ok pairs) :
    ∃ node, Pairs.find? "node" members = some (.object node) ∧ ∀ target value,
      operation.Shows source key members node target value ↔ (target, value) ∈ pairs ∨
        target = Companion.key key Companion.sourceName ∧ value = source := by
  obtain ⟨node, isMember, rfl⟩ := exists_node_of_entries single isPairs
  refine ⟨node, isMember, fun target value => ?_⟩
  simp only [List.mem_append, NodeData.mem_fieldEntries_iff, List.mem_flatMap, Option.mem_toList,
    Answer.mem_previousEntries_iff, List.mem_map, Prod.mk.injEq, String.empty_append]
  constructor
  · rintro (⟨rfl, isValue⟩ | ⟨name, rfl, describes⟩)
    · exact .inl (.inl (.inl ⟨value, isValue, rfl, rfl⟩))
    · cases describes with
      | now describes =>
        cases describes with
        | source => exact .inr ⟨rfl, rfl⟩
        | field isField isMember => exact .inl (.inl (.inr ⟨_, isField, _, isMember, rfl, rfl⟩))
      | before isBefore recalls => exact .inl (.inr ⟨_, isBefore, _, rfl, recalls⟩)
  · rintro (((⟨_, isValue, rfl, rfl⟩ | ⟨name, isField, document, isMember, rfl, rfl⟩) |
      ⟨before, isBefore, name, rfl, recalls⟩) | ⟨rfl, rfl⟩)
    · exact .inl ⟨rfl, isValue⟩
    · exact .inr ⟨_, rfl, .now (.field isField isMember)⟩
    · exact .inr ⟨_, rfl, .before isBefore recalls⟩
    · exact .inr ⟨_, rfl, .now .source⟩

end Operation

namespace Accessor

variable {accessor : Accessor} {operation : Operation} {key : String} {reply : Reply}
  {outcome : Outcome String}

/-- The map of a good outcome about one key is what its answer shows. -/
theorem Yields.exists_shows (yields : Yields accessor operation key reply outcome)
    (single : ∀ recursive, operation ≠ .readTree recursive) (good : outcome.ok = true) :
    ∃ response members node, reply = .ok response ∧
      Json.read response.text = .ok (.object members) ∧
      Pairs.find? "node" members = some (.object node) ∧ ∀ target value,
        outcome.toMap.find? target = some value ↔
          operation.Shows accessor.source key members node target value := by
  obtain ⟨response, members, pairs, isReply, isMembers, isPairs, shows⟩ := yields.exists_pairs good
  obtain ⟨node, isMember, shown⟩ := Operation.exists_shows_iff single isPairs
  refine ⟨response, members, node, isReply, isMembers, isMember, fun target value => ?_⟩
  have isEntry : ∀ value, (Entries.ofList pairs).find? target = some value ↔ (target, value) ∈ pairs :=
    fun value => Entries.find?_ofList_eq_some_iff fun first second isFirst isSecond =>
      ((shown target first).2 (.inl isFirst)).unique ((shown target second).2 (.inl isSecond))
  rw [shows target, shown, Option.or_eq_some_iff, isEntry]
  constructor
  · rintro (isPair | ⟨-, isMarker⟩)
    · exact .inl isPair
    · exact .inr (by simpa [eq_comm] using isMarker)
  · rintro (isPair | ⟨rfl, rfl⟩)
    · exact .inl isPair
    · cases isFound : (Entries.ofList pairs).find? (Companion.key key Companion.sourceName) with
      | none => exact .inr ⟨rfl, if_pos rfl⟩
      | some other =>
        -- An entry at the marker tells the source as well.
        have isPair := (isEntry other).1 isFound
        obtain rfl : other = accessor.source :=
          ((shown _ other).2 (.inl isPair)).unique ((shown _ _).2 (.inr ⟨rfl, rfl⟩))
        exact .inl isPair

/-- The value of an outcome without an error is what its map has at its key. -/
theorem Yields.value_eq (yields : Yields accessor operation key reply outcome)
    (noError : outcome.error = none) : outcome.value = outcome.toMap.find? key := by
  obtain rfl := yields.key_outcome
  have noMarker : outcome.sourceKey ≠ outcome.key := Companion.key_ne_owner _ _
  rw [Outcome.find?_toMap_of_noError noError, if_neg noMarker, Option.or_none, Outcome.value]

/-- The views of an outcome about one key show a node and what is told besides, and nothing else. -/
structure ShowsNode (accessor : Accessor) (operation : Operation) (key : String)
    (members node : List (String × Document)) (outcome : Outcome String)
    (configuration : Configuration) : Prop where
  /-- The flat map has the value at the key, and all else at companions of the key. -/
  map : ∀ target shown, outcome.toMap.find? target = some shown ↔
    target = key ∧ operation.value? node = some shown ∨
      ∃ name, target = Companion.key key name ∧
        operation.Describes accessor.source members node name shown
  /-- The metadata of the key is all else, each under its name. -/
  metadata : ∀ name value, (configuration.metadata (.text key)).find? name = some value ↔
    ∃ shown, value = .text shown ∧ operation.Describes accessor.source members node name shown
  value : outcome.value = operation.value? node
  atKey : outcome.toMap.find? key = outcome.value
  /-- A key that is not set aside is the only property, if it has a value. -/
  properties : Companion.isReserved key = false → configuration.properties.pairs =
    (outcome.value.map fun shown => (key, Document.text shown)).toList

/-- An operation about one key that succeeds shows exactly its node, whatever the key. From the map of
its outcome, the source, the fields of the node and those of the node as it was before can be read off
as the metadata of the key; and the value that is left, if there is one, as its only property. -/
theorem map_describes_node (yields : Yields accessor operation key reply outcome)
    (single : ∀ recursive, operation ≠ .readTree recursive) (good : outcome.ok = true)
    (sources : List String) :
    ∃ response members node, reply = .ok response ∧
      Json.read response.text = .ok (.object members) ∧
      Pairs.find? "node" members = some (.object node) ∧
      ShowsNode accessor operation key members node outcome (.ofTexts outcome.toMap sources) := by
  obtain ⟨response, members, node, isReply, isMembers, isMember, shows⟩ :=
    yields.exists_shows single good
  have isValue := yields.value_eq (Outcome.error_of_ok good)
  have left := isValue.trans (Operation.find?_key_of_shows shows)
  exact ⟨response, members, node, isReply, isMembers, isMember,
    { map := shows
      metadata := fun name value => by
        rw [Configuration.find?_metadata_ofTexts]
        simp only [Operation.find?_companion_of_shows shows]
      value := left
      atKey := isValue.symm
      properties := fun notReserved => by
        rw [left]
        exact Operation.properties_of_shows shows sources notReserved }⟩

/-- The members of a node that was written, at a key that looks like a field of another one. -/
def writtenNode : List (String × Document) :=
  [("key", .text "/a.ttl"), ("value", .text "2"), ("createdIndex", .int 8), ("ttl", .int 60)]

/-- The members of an answer that tells of this node, and of the node as it was before. -/
def writtenMembers : List (String × Document) :=
  [("node", .object writtenNode),
   ("prevNode", .object [("key", .text "/a.ttl"), ("value", .text "1"), ("createdIndex", .int 7)])]

/-- The law at a write over another value. -/
theorem map_describes_node_written :
    ∃ outcome, Yields standard (.write (.text "2") (.int 60)) "a.ttl"
        (.ok (.ofDocument 200 (.object writtenMembers))) outcome ∧ outcome.ok = true ∧
      ShowsNode standard (.write (.text "2") (.int 60)) "a.ttl" writtenMembers writtenNode outcome
        (.ofTexts outcome.toMap []) ∧
      outcome.value = some "2" ∧
      ((Configuration.ofTexts outcome.toMap []).metadata (.text "a.ttl")).find? "prevNode.value" =
        some (.text "1") := by
  obtain ⟨url, isUrl⟩ : ∃ url, urlOf (standard.keyAddress "a.ttl")
      (Operation.write (.text "2") (.int 60)).query? = .ok url :=
    exists_ok_of_isSome (by decide +kernel)
  obtain ⟨outcome, yields⟩ := exists_yields (by decide +kernel) isUrl rfl
    (.ofDocument 200 (.object writtenMembers)) (endingFault?_ofDocument _ _)
  have isDocument := Json.read_write (show Json.isPlain (.object writtenMembers) = true by
    decide +kernel)
  rw [← Response.text_ofDocument 200] at isDocument
  have good := yields.ok_of_entries (by simp [Response.ofDocument, successStatuses]) isDocument rfl
  obtain ⟨response, members, node, isReply, isMembers, isMember, showsNode⟩ :=
    map_describes_node yields (by simp) good []
  cases isReply
  obtain rfl : writtenMembers = members := by simpa [isDocument] using isMembers
  obtain rfl : writtenNode = node := by simpa [writtenMembers, Pairs.find?] using isMember
  have isName : Answer.previousLabel ++ "value" = "prevNode.value" := by decide
  refine ⟨outcome, yields, good, showsNode, showsNode.value.trans rfl, ?_⟩
  rw [← isName]
  exact (showsNode.metadata _ _).2 ⟨(Document.text "1").shown, rfl, .before rfl (.value rfl)⟩

end Accessor

end Keyspace
