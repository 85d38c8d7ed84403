import Keyspace.Proofs.Accessor.KeyValue
import Keyspace.Proofs.Json.RoundTrip

/-!
# A keyspace in memory

A small server that keeps nodes in memory and counts its writes. It shows that what is asked of
servers can be had, and lets runs of an accessor be followed to their answers.
-/

namespace Keyspace

/-- A node in memory. -/
structure MemoryNode where
  value : String
  created : UInt64
  modified : UInt64

/-- The nodes of a keyspace, and the number of writes to it. -/
structure Memory where
  nodes : String → Option MemoryNode
  index : UInt64 := 0

namespace MemoryNode

/-- A counter as a document. -/
def counter (count : UInt64) : Document := .int count.toNat

/-- The members of a node at a key. -/
def members (key : String) (node : MemoryNode) : List (String × Document) :=
  [("key", .text ("/" ++ key)), ("value", .text node.value), ("createdIndex", counter node.created),
   ("modifiedIndex", counter node.modified)]

/-- The members of a node at a key that has been deleted. -/
def deletedMembers (key : String) (node : MemoryNode) (index : UInt64) : List (String × Document) :=
  [("key", .text ("/" ++ key)), ("createdIndex", counter node.created),
   ("modifiedIndex", counter index)]

end MemoryNode

namespace Memory

/-- The memory without nodes. -/
def empty : Memory := { nodes := fun _ => none }

/-- The contents that can be seen in a memory. -/
def view (memory : Memory) : Contents := fun key => (memory.nodes key).map MemoryNode.value

/-- The members of an answer about a node: the node, and the node as it was before, if there was
one. -/
def answerMembers (action : String) (node : List (String × Document))
    (before : Option (List (String × Document))) : List (String × Document) :=
  [("action", .text action), ("node", .object node)] ++
    before.toList.map fun previous => ("prevNode", .object previous)

/-- The answer about a node. -/
def answer (status : Int) (action : String) (node : List (String × Document))
    (before : Option (List (String × Document))) : Response :=
  .ofDocument status (.object (answerMembers action node before))

/-- The answer about a key without a node. -/
def notFound (key : String) : Response :=
  .ofDocument 404 (.object [("errorCode", .int 100), ("message", .text "Key not found"),
    ("cause", .text ("/" ++ key))])

/-- Change the node at a key, and count the write. -/
def write (memory : Memory) (key : String) (node : Option MemoryNode) : Memory where
  nodes := fun other => if other = key then node else memory.nodes other
  index := memory.index + 1

/-- The node that a value makes at a key: one that was there keeps when it was created. -/
def nodeFor (memory : Memory) (key value : String) : MemoryNode where
  value := value
  created := ((memory.nodes key).map MemoryNode.created).getD (memory.index + 1)
  modified := memory.index + 1

/-- The answer to a request about a key, and the memory after it. -/
def respond (memory : Memory) (request : Request) (key : String) : Response × Memory :=
  match request.method, memory.nodes key with
  | .get, some node => (answer 200 "get" (node.members key) none, memory)
  | .get, none => (notFound key, memory)
  | .put, before =>
    match Pairs.find? "value" (Form.read request.body) with
    | some value =>
      (answer (if before.isSome then 200 else 201) "set" ((memory.nodeFor key value).members key)
        (before.map (MemoryNode.members key)), memory.write key (some (memory.nodeFor key value)))
    | none => ({ status := 400, body := [] }, memory)
  | .delete, some node =>
    (answer 200 "delete" (node.deletedMembers key (memory.index + 1)) (some (node.members key)),
      memory.write key none)
  | .delete, none => (notFound key, memory)

/-- The server that keeps its nodes in memory. -/
def serve : Server Memory := fun memory request =>
  match request.key? with
  | some key => ((.ok (memory.respond request key).1), (memory.respond request key).2)
  | none => (.ok { status := 404, body := [] }, memory)

/-- Counters are not oversized. -/
theorem isPlain_counter (count : UInt64) : Json.isPlain (MemoryNode.counter count) = true := by
  have small : count.toNat < 2 ^ 64 := count.toNat_lt
  have large : 2 ^ 64 ≤ 10 ^ Number.digitLimit := by decide +kernel
  simp only [MemoryNode.counter, Json.isPlain, Number.isOversized, Int.natAbs_natCast,
    Bool.not_eq_true', decide_eq_false_iff_not]
  omega

theorem isPlain_members (key : String) (node : MemoryNode) :
    Json.isPlain (.object (node.members key)) = true := by
  simp [Json.isPlain, Json.allMembersPlain, MemoryNode.members, isPlain_counter, Pairs.keys]

theorem isPlain_deletedMembers (key : String) (node : MemoryNode) (index : UInt64) :
    Json.isPlain (.object (node.deletedMembers key index)) = true := by
  simp [Json.isPlain, Json.allMembersPlain, MemoryNode.deletedMembers, isPlain_counter, Pairs.keys]

/-- An answer tells of its node. -/
theorem tellsNode_answer (status : Int) (action : String) {node : List (String × Document)}
    {before : Option (List (String × Document))} (nodePlain : Json.isPlain (.object node) = true)
    (beforePlain : ∀ previous ∈ before, Json.isPlain (.object previous) = true) :
    (answer status action node before).TellsNode status (answerMembers action node before)
      node where
  status := rfl
  body := by
    rw [answer, Response.text_ofDocument, Json.read_write]
    cases before with
    | none => simpa [Json.isPlain, Json.allMembersPlain, answerMembers, Pairs.keys] using nodePlain
    | some previous =>
      simpa [Json.isPlain, Json.allMembersPlain, answerMembers, Pairs.keys] using
        And.intro nodePlain (beforePlain previous rfl)
  node := rfl

/-- An answer tells of the node as it was before, if there was one. -/
theorem find?_prevNode_answerMembers (action : String) (node : List (String × Document))
    (before : Option (List (String × Document))) :
    Pairs.find? "prevNode" (answerMembers action node before) = before.map Document.object := by
  cases before <;> rfl

theorem serve_of_key {memory : Memory} {request : Request} {key : String}
    (about : request.key? = some key) :
    serve memory request =
      (.ok (memory.respond request key).1, (memory.respond request key).2) := by
  simp only [serve, about]

/-- What can be seen after a write. -/
theorem view_write (memory : Memory) (key : String) (node : Option MemoryNode) :
    (memory.write key node).view = memory.view.put key (node.map MemoryNode.value) := by
  funext other
  by_cases same : other = key <;> simp [view, write, Contents.put, same]

/-- The server in memory keeps the keyspace. -/
theorem servesKeyspace : ServesKeyspace serve view where
  get memory request key isGet about := by
    refine ⟨_, _, serve_of_key about, ?_⟩
    cases found : memory.nodes key with
    | some node =>
      have seen : memory.view key = some node.value := by simp [view, found]
      simp only [respond, isGet, found, seen, true_and]
      exact ⟨_, _, tellsNode_answer 200 "get" (isPlain_members key node) (by simp), rfl⟩
    | none =>
      have seen : memory.view key = none := by simp [view, found]
      simp only [respond, isGet, found, seen, true_and]
      exact .inl rfl
  put memory request key value isPut about isValue _ := by
    refine ⟨_, _, serve_of_key about, ?_⟩
    have nodePlain := isPlain_members key (memory.nodeFor key value)
    have written := view_write memory key (some (memory.nodeFor key value))
    cases found : memory.nodes key with
    | some node =>
      have seen : memory.view key = some node.value := by simp [view, found]
      simp only [respond, isPut, found, seen, isValue]
      exact ⟨written, _, _, rfl, tellsNode_answer 200 "set" nodePlain
        (by simpa using isPlain_members key node), _, find?_prevNode_answerMembers _ _ _⟩
    | none =>
      have seen : memory.view key = none := by simp [view, found]
      simp only [respond, isPut, found, seen, isValue]
      exact ⟨written, _, _, rfl, tellsNode_answer 201 "set" nodePlain (by simp),
        find?_prevNode_answerMembers _ _ _⟩
  delete memory request key isDelete about := by
    refine ⟨_, _, serve_of_key about, ?_⟩
    cases found : memory.nodes key with
    | some node =>
      have seen : memory.view key = some node.value := by simp [view, found]
      simp only [respond, isDelete, found, seen]
      exact ⟨view_write memory key none, _, _, tellsNode_answer 200 "delete"
        (isPlain_deletedMembers key node (memory.index + 1))
        (by simpa using isPlain_members key node), _, find?_prevNode_answerMembers _ _ _⟩
    | none =>
      have seen : memory.view key = none := by simp [view, found]
      simp only [respond, isDelete, found, seen]
      refine ⟨?_, rfl⟩
      funext other
      by_cases same : other = key <;> simp [Contents.put, same, seen]

/-- Setting a key to a text that cannot be written in UTF-8. -/
def brokenSet : Accessor.Turn :=
  .broken { operation := .write (.broken .single) .null, key := .text "a?" }

/-- Getting that key. -/
def getTurn : Accessor.Turn := .sound ⟨.get, "a?", none⟩

theorem isReady_brokenSet : brokenSet.IsReady Accessor.standard := by
  obtain ⟨url, isUrl⟩ : ∃ url, Accessor.urlOf (Accessor.standard.keyAddress "a?") none = .ok url :=
    Accessor.exists_ok_of_isSome (by decide +kernel)
  exact ⟨⟨rfl, rfl⟩, ⟨_, rfl⟩, _, .form isUrl rfl⟩

theorem isReady_getTurn : getTurn.IsReady Accessor.standard :=
  ⟨by decide, by decide +kernel, ⟨_, rfl⟩, by simp⟩

/-- Getting a key after it was set, with a slash in front, gives its value. In between it could not
be set to a text that cannot be written. -/
theorem run_answers_after_set :
    ∃ map, (Accessor.run serve Accessor.standard
        [.sound ⟨.set "1 & ü" none, "/a?", none⟩, brokenSet, getTurn] { server := empty }).1[2]? =
          some (.ok map) ∧ map.find? "a?" = some "1 & ü" := by
  have isReadySet : (Accessor.Turn.sound ⟨.set "1 & ü" none, "/a?", none⟩).IsReady
      Accessor.standard := ⟨by decide, by decide +kernel, ⟨_, rfl⟩, by simp⟩
  have ready : ∀ turn ∈ [.sound ⟨.set "1 & ü" none, "/a?", none⟩, brokenSet, getTurn],
      turn.IsReady Accessor.standard := by
    simp [isReadySet, isReady_brokenSet, isReady_getTurn]
  obtain ⟨-, -, answers⟩ := Accessor.run_answers_after servesKeyspace Accessor.create_standard.1
    Accessor.create_standard.2 _ ready { server := empty } rfl
  obtain ⟨map, isResult, told⟩ :=
    answers [.sound ⟨.set "1 & ü" none, "/a?", none⟩, brokenSet] ⟨.get, "a?", none⟩ [] rfl
  refine ⟨map, isResult, (told "1 & ü").2 ?_⟩
  exact ⟨[], _, [], rfl, by decide, ⟨none, rfl⟩, by simp⟩

/-- A key that was set to a text that cannot be written has no value afterwards. -/
theorem exists_set_not_kept :
    ∃ failure map, (Accessor.run serve Accessor.standard [brokenSet, getTurn]
        { server := empty }).1 = [.error failure, .ok map] ∧ map.find? "a?" = none := by
  obtain ⟨base, isBase⟩ := Accessor.exists_isBase_of_create Accessor.create_standard.1
  obtain ⟨failure, failed⟩ :=
    Accessor.exists_failure_of_broken serve isReady_brokenSet { server := empty }
  obtain ⟨outcome, performed, told, -⟩ := Accessor.perform_of_isReady servesKeyspace isBase
    Accessor.create_standard.2 isReady_getTurn { server := empty }
  refine ⟨failure, outcome.toMap, ?_, told⟩
  simp only [Accessor.run, brokenSet, getTurn, Accessor.Turn.call, failed, performed]
  rfl

end Memory

end Keyspace
