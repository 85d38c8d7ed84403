import Keyspace.Proofs.Accessor.Lossless
import Keyspace.Proofs.Configuration

/-!
# Metadata of the keys of a listing

The metadata of a key is gathered by what companions begin with, and a key may have points itself.
So the metadata of a key shows what describes its own leaf, and besides that what describes the keys
that go on behind the key with a point. `metadata_exact_iff` says that this is the only way in which
something of another key gets there.
-/

namespace Keyspace

namespace Companion

/-- A key goes on behind another one with a point. -/
def IsWithin (owner key : String) : Prop := ∃ rest, key = owner ++ "." ++ rest

/-- A key goes on behind another one with a point exactly when it begins so. -/
theorem isWithin_iff_prefix {owner key : String} :
    IsWithin owner key ↔ (owner ++ ".").toList <+: key.toList := by
  constructor
  · rintro ⟨rest, rfl⟩
    exact ⟨rest.toList, String.toList_append.symm⟩
  · rintro ⟨rest, isKey⟩
    refine ⟨String.ofList rest, String.toList_injective ?_⟩
    rw [← isKey]
    simp

instance (owner key : String) : Decidable (IsWithin owner key) :=
  decidable_of_iff _ isWithin_iff_prefix.symm

end Companion

namespace Node

variable {source owner name value : String} {node : List (String × Document)}

/-- What describes a node: those of its members that are metadata, and where it comes from. -/
inductive Describes (source : String) (node : List (String × Document)) : String → String → Prop where
  | source : Describes source node Companion.sourceName source
  | field {name : String} {document : Document} (isField : name ∈ NodeData.fieldNames)
      (isMember : Pairs.find? name node = some document) :
      Describes source node name document.shown

theorem Describes.noPoint (describes : Describes source node name value) : '.' ∉ name.toList := by
  cases describes with
  | source => decide
  | field isField _ => exact NodeData.not_mem_fieldNames _ isField

/-- A plain node tells at companions what describes it, at those of its own key. -/
theorem tells_companion_iff_describes (plain : IsPlain node) :
    Tells source node (Companion.key owner name) value ↔
      ∃ key own, key? node = some key ∧ Companion.key owner name = Companion.key key own ∧
        Describes source node own value := by
  constructor
  · generalize isTarget : Companion.key owner name = target
    intro tells
    cases tells with
    | value isKey isMember =>
      have notReserved := plain target isKey
      simp [← isTarget] at notReserved
    | field isKey isField isMember => exact ⟨_, _, isKey, rfl, .field isField isMember⟩
    | source isKey => exact ⟨_, _, isKey, rfl, .source⟩
  · rintro ⟨key, own, isKey, sameCompanion, describes⟩
    rw [sameCompanion]
    cases describes with
    | source => exact .source isKey
    | field isField isMember => exact .field isKey isField isMember

/-- Metadata is what describes a node, and nothing else. -/
def IsDescription (source : String) (node : List (String × Document))
    (metadata : Entries Document) : Prop :=
  ∀ name value, metadata.find? name = some value ↔
    ∃ shown, value = .text shown ∧ Describes source node name shown

/-- What the metadata of a key shows of other keys: of nodes and of the directory of a listing, where
their keys go on behind the key with a point. -/
inductive Intrudes (source directory : String) (nodes : List (List (String × Document)))
    (owner : String) : String → String → Prop where
  | node {other : List (String × Document)} {rest own value : String} (isNode : other ∈ nodes)
      (isKey : key? other = some (owner ++ "." ++ rest))
      (describes : Describes source other own value) :
      Intrudes source directory nodes owner (rest ++ "." ++ own) value
  | directory {rest : String} (isDirectory : directory = owner ++ "." ++ rest) :
      Intrudes source directory nodes owner (rest ++ "." ++ Companion.sourceName) source

/-- Nothing intrudes exactly when no key goes on behind the key with a point. -/
theorem exists_intrudes_iff {directory : String} {nodes : List (List (String × Document))} :
    (∃ name value, Intrudes source directory nodes owner name value) ↔
      Companion.IsWithin owner directory ∨
        ∃ other ∈ nodes, ∃ key, key? other = some key ∧ Companion.IsWithin owner key := by
  constructor
  · rintro ⟨name, value, intrudes⟩
    cases intrudes with
    | node isNode isKey describes => exact .inr ⟨_, isNode, _, isKey, _, rfl⟩
    | directory isDirectory => exact .inl ⟨_, isDirectory⟩
  · rintro (⟨rest, isDirectory⟩ | ⟨other, isNode, _, isKey, rest, rfl⟩)
    · exact ⟨_, _, .directory isDirectory⟩
    · exact ⟨_, _, .node isNode isKey .source⟩

/-- What intrudes has a point in its name, unlike what describes a node. -/
theorem Intrudes.hasPoint {directory : String} {nodes : List (List (String × Document))}
    (intrudes : Intrudes source directory nodes owner name value) : '.' ∈ name.toList := by
  cases intrudes <;> simp

end Node

namespace Accessor

variable {accessor : Accessor} {directory : String} {response : Response}
  {outcome : Outcome String} {recursive : Bool} {document : Document}
  {node : List (String × Document)} {key : String}

/-- The metadata of the key of a leaf, in the configuration of a listing without a loss: what
describes the leaf, and what intrudes. -/
theorem Yields.find?_metadata_eq_some_iff
    (yields : Yields accessor (.readTree recursive) directory (.ok response) outcome)
    (isDocument : Json.read response.text = .ok document) (good : outcome.ok = true)
    (apart : Node.AreApart document.listedNodes) (isNode : node ∈ document.listedNodes)
    (isKey : Node.key? node = some key) (sources : List String) (name : String)
    (value : Document) :
    ((Configuration.ofTexts outcome.toMap sources).metadata (.text key)).find? name = some value ↔
      ∃ shown, value = .text shown ∧ (Node.Describes accessor.source node name shown ∨
        Node.Intrudes accessor.source directory document.listedNodes key name shown) := by
  rw [Configuration.find?_metadata_ofTexts]
  refine exists_congr fun shown => ?_
  rw [yields.find?_toMap_eq_some_iff isDocument good apart]
  refine and_congr_right fun _ => ?_
  constructor
  · rintro (⟨sameCompanion, rfl⟩ | ⟨other, isOther, tells⟩)
    · rcases (Companion.key_eq_key_iff_or_within (by decide)).1 sameCompanion.symm with
        ⟨-, rfl⟩ | ⟨rest, isDirectory, rfl⟩
      · exact .inl .source
      · exact .inr (.directory isDirectory)
    · obtain ⟨otherKey, own, isOtherKey, sameCompanion, describes⟩ :=
        (Node.tells_companion_iff_describes (apart.plain other isOther)).1 tells
      rcases (Companion.key_eq_key_iff_or_within describes.noPoint).1 sameCompanion with
        ⟨rfl, rfl⟩ | ⟨rest, rfl, rfl⟩
      · obtain rfl : node = other := List.inj_on_of_nodup_map apart.distinct isNode isOther
          (isKey.trans isOtherKey.symm)
        exact .inl describes
      · exact .inr (.node isOther isOtherKey describes)
  · have tells : ∀ {other otherKey own}, other ∈ document.listedNodes →
        Node.key? other = some otherKey → Node.Describes accessor.source other own shown →
        Companion.key key name = Companion.key otherKey own →
        ∃ other ∈ document.listedNodes,
          Node.Tells accessor.source other (Companion.key key name) shown :=
      fun isOther isOtherKey describes sameCompanion =>
        ⟨_, isOther, (Node.tells_companion_iff_describes (apart.plain _ isOther)).2
          ⟨_, _, isOtherKey, sameCompanion, describes⟩⟩
    rintro (describes | intrudes)
    · exact .inr (tells isNode isKey describes rfl)
    · cases intrudes with
      | node isOther isOtherKey describes =>
        exact .inr (tells isOther isOtherKey describes
          ((Companion.key_eq_key_iff_or_within describes.noPoint).2 (.inr ⟨_, rfl, rfl⟩)))
      | directory isDirectory =>
        exact .inl ⟨((Companion.key_eq_key_iff_or_within (by decide)).2
          (.inr ⟨_, isDirectory, rfl⟩)).symm, rfl⟩

/-- In the configuration of a listing with success whose leaves have distinct keys, none of them set
aside, the metadata of the key of a leaf is what describes the leaf exactly when neither the key of
the directory nor that of a leaf goes on behind it with a point; otherwise what describes those is
there as well. -/
theorem metadata_exact_iff
    (yields : Yields accessor (.readTree recursive) directory (.ok response) outcome)
    (isDocument : Json.read response.text = .ok document) (good : outcome.ok = true)
    (apart : Node.AreApart document.listedNodes) (isNode : node ∈ document.listedNodes)
    (isKey : Node.key? node = some key) (sources : List String) :
    (∀ name value, ((Configuration.ofTexts outcome.toMap sources).metadata (.text key)).find? name =
        some value ↔
      ∃ shown, value = .text shown ∧ (Node.Describes accessor.source node name shown ∨
        Node.Intrudes accessor.source directory document.listedNodes key name shown)) ∧
    (Node.IsDescription accessor.source node
        ((Configuration.ofTexts outcome.toMap sources).metadata (.text key)) ↔
      ¬ Companion.IsWithin key directory ∧
        ∀ other ∈ document.listedNodes, ∀ otherKey, Node.key? other = some otherKey →
          ¬ Companion.IsWithin key otherKey) := by
  have shows := yields.find?_metadata_eq_some_iff isDocument good apart isNode isKey sources
  have intrudes : (¬ ∃ name value,
        Node.Intrudes accessor.source directory document.listedNodes key name value) ↔
      ¬ Companion.IsWithin key directory ∧
        ∀ other ∈ document.listedNodes, ∀ otherKey, Node.key? other = some otherKey →
          ¬ Companion.IsWithin key otherKey := by
    rw [Node.exists_intrudes_iff]
    simp only [not_or, not_exists, not_and]
  refine ⟨shows, ?_⟩
  rw [← intrudes]
  constructor
  · rintro exactly ⟨name, value, intruder⟩
    obtain ⟨shown, -, describes⟩ :=
      (exactly name (.text value)).1 ((shows name (.text value)).2 ⟨value, rfl, .inr intruder⟩)
    exact describes.noPoint intruder.hasPoint
  · intro none name value
    rw [shows]
    refine exists_congr fun shown => and_congr_right fun _ => or_iff_left fun intruder => ?_
    exact none ⟨name, shown, intruder⟩

/-- The members of two nodes, where the key of one goes on behind that of the other. -/
def pointedNodes : List (List (String × Document)) :=
  [[("key", .text "/a"), ("value", .text "1"), ("ttl", .int 5)],
   [("key", .text "/a.b"), ("value", .text "2")]]

/-- The members of an answer that lists these nodes. -/
def pointedMembers : List (String × Document) :=
  [("node", .object [("dir", .bool true), ("nodes", .array (pointedNodes.map .object))])]

/-- These nodes are listed with success, and they are apart. -/
theorem exists_pointedListing :
    ∃ outcome, Yields standard (.readTree true) "" (.ok (.ofDocument 200 (.object pointedMembers)))
        outcome ∧ outcome.ok = true ∧
      Json.read (Response.ofDocument 200 (.object pointedMembers)).text =
        .ok (.object pointedMembers) ∧
      (Document.object pointedMembers).listedNodes = pointedNodes ∧
      Node.AreApart (Document.object pointedMembers).listedNodes := by
  obtain ⟨url, isUrl⟩ : ∃ url, urlOf (standard.keyAddress "") (Operation.readTree true).query? =
      .ok url := exists_ok_of_isSome (by decide +kernel)
  obtain ⟨outcome, yields, good, isDocument⟩ :=
    exists_listing pointedMembers isUrl (by decide +kernel) (by decide +kernel)
  have isListed : (Document.object pointedMembers).listedNodes = pointedNodes := by
    simp [pointedMembers, pointedNodes, Document.listedNodes, Document.memberOrNull,
      Document.member?, Pairs.find?, Node.reached_object, Node.isDirectory, Node.children,
      Node.itemsOf, Document.isTruthy]
  refine ⟨outcome, yields, good, isDocument, isListed, ?_⟩
  rw [isListed]
  exact ⟨by decide +kernel, by decide +kernel⟩

/-- The law at a key that goes on behind another one, where nothing intrudes, and at that one, where
something does. -/
theorem metadata_exact_iff_pointed :
    ∃ outcome, Yields standard (.readTree true) "" (.ok (.ofDocument 200 (.object pointedMembers)))
        outcome ∧
      Node.IsDescription standard.source pointedNodes[1]
        ((Configuration.ofTexts outcome.toMap []).metadata (.text "a.b")) ∧
      ¬ Node.IsDescription standard.source pointedNodes[0]
        ((Configuration.ofTexts outcome.toMap []).metadata (.text "a")) := by
  obtain ⟨outcome, yields, good, isDocument, isListed, apart⟩ := exists_pointedListing
  have below : Node.key? pointedNodes[1] = some "a.b" := by decide +kernel
  have above : Node.key? pointedNodes[0] = some "a" := by decide +kernel
  have isBelow : pointedNodes[1] ∈ (Document.object pointedMembers).listedNodes := by simp [isListed]
  have isAbove : pointedNodes[0] ∈ (Document.object pointedMembers).listedNodes := by simp [isListed]
  have nothingBelow : ∀ other ∈ pointedNodes, ∀ key ∈ Node.key? other,
      ¬ Companion.IsWithin "a.b" key := by
    decide +kernel
  refine ⟨outcome, yields,
    (metadata_exact_iff yields isDocument good apart isBelow below []).2.2 ⟨by decide, ?_⟩,
    fun exactly => ?_⟩
  · rw [isListed]
    exact nothingBelow
  · exact ((metadata_exact_iff yields isDocument good apart isAbove above []).2.1 exactly).2
      _ isBelow _ below (by decide)

/-- The metadata of a key has the source of another one that goes on behind it with a point. -/
theorem exists_metadata_of_another_key :
    ∃ outcome, Yields standard (.readTree true) "" (.ok (.ofDocument 200 (.object pointedMembers)))
        outcome ∧ outcome.ok = true ∧
      Node.AreApart (Document.object pointedMembers).listedNodes ∧
      pointedNodes[0] ∈ (Document.object pointedMembers).listedNodes ∧
      Node.key? pointedNodes[0] = some "a" ∧
      ((Configuration.ofTexts outcome.toMap []).metadata (.text "a")).find? "b.source" =
        some (.text standard.source) ∧
      ¬ ∃ shown, Node.Describes standard.source pointedNodes[0] "b.source" shown := by
  obtain ⟨outcome, yields, good, isDocument, isListed, apart⟩ := exists_pointedListing
  have below : Node.key? pointedNodes[1] = some ("a" ++ "." ++ "b") := by decide +kernel
  have above : Node.key? pointedNodes[0] = some "a" := by decide +kernel
  have isBelow : pointedNodes[1] ∈ (Document.object pointedMembers).listedNodes := by simp [isListed]
  have isAbove : pointedNodes[0] ∈ (Document.object pointedMembers).listedNodes := by simp [isListed]
  refine ⟨outcome, yields, good, apart, isAbove, above, ?_, ?_⟩
  · exact (yields.find?_metadata_eq_some_iff isDocument good apart isAbove above [] _ _).2
      ⟨_, rfl, .inr (.node isBelow below .source)⟩
  · rintro ⟨shown, describes⟩
    exact describes.noPoint (by decide)

end Accessor

end Keyspace
