import Keyspace.Content
import Keyspace.Json.Reader
import Keyspace.Node
import Keyspace.Outcome

/-!
# Reading answers

The body of a successful answer is a JSON object with a node. What is wrong with a body has one
cause, and each cause makes a parse error about the key that was asked for; only a listed node
that is no object is reported without a key.
-/

namespace Keyspace

/-- Why the body of an answer is not usable. -/
inductive AnswerFault where
  /-- The body is no text. -/
  | undecodable (fault : Content.DecodingFault)
  | malformed (text : String) (fault : Json.ReadFault)
  | notObject
  | nodeMissing
  | previousNotObject
  | listingNotObject
  | listed (fault : NodeFault)
deriving DecidableEq, Repr

/-- A body that is not JSON, as a fault. -/
def Json.ReadFault.toFault (text : String) (readFault : Json.ReadFault) : Fault :=
  match readFault.problem with
  | .oversizedInteger _ => ⟨.value, Json.ReadFault.message text readFault⟩
  | _ => ⟨.malformedJson, Json.ReadFault.message text readFault⟩

namespace AnswerFault

/-- A parse error about a key. -/
def parseError (key : Option String) (message : String) (cause : Option Fault := none) :
    AccessError := { kind := .parse, message, key, cause }

/-- The error about a key for a cause. -/
def error (key : String) : AnswerFault → AccessError
  | .undecodable fault =>
    if fault.kind = .type then unexpected key fault.toFault else notJson key fault.toFault
  | .malformed text readFault => notJson key (readFault.toFault text)
  | .notObject => parseError (some key) ("etcd returned a non-object body for " ++ Text.quoted key)
  | .nodeMissing => parseError (some key) "etcd response has no 'node' object"
  | .previousNotObject => parseError (some key) "'prevNode' is not an object"
  | .listingNotObject => parseError (some key) "'node' is not an object"
  | .listed .notObject => parseError none "'nodes' entry is not an object"
  | .listed .keyMissing => unexpected key (Fault.missingKey (.text "key"))
  | .listed (.keyNotText other) => unexpected key (Fault.lacks other "startswith")
  | .listed (.childrenNotIterable children) => unexpected key (Fault.notIterable children)
where
  /-- The error about a key for a fault met in reading a text. -/
  notJson (key : String) (cause : Fault) : AccessError :=
    parseError (some key) ("etcd returned invalid JSON for " ++ Text.quoted key) (some cause)
  /-- The error about a key for another fault. -/
  unexpected (key : String) (cause : Fault) : AccessError :=
    parseError (some key) ("Unexpected etcd response for " ++ Text.quoted key) (some cause)

@[simp] theorem kind_error (key : String) (fault : AnswerFault) :
    (fault.error key).kind = .parse := by
  rcases fault with ⟨_⟩ | ⟨_, _⟩ | _ | _ | _ | _ | (_ | _ | _ | _)
  case undecodable =>
    simp only [error]
    split <;> rfl
  all_goals rfl

end AnswerFault

namespace Answer

/-- The members of the object in a body. -/
def members (body : String) : Except AnswerFault (List (String × Document)) :=
  match Json.read body with
  | .error readFault => .error (.malformed body readFault)
  | .ok (.object members) => .ok members
  | .ok _ => .error .notObject

/-- The data of the node that an answer is about. -/
def node (members : List (String × Document)) : Except AnswerFault NodeData :=
  match Pairs.find? "node" members with
  | some (.object node) => .ok (NodeData.ofMembers node)
  | _ => .error .nodeMissing

/-- The data of the node as it was before, if the answer tells. -/
def previous (members : List (String × Document)) : Except AnswerFault (Option NodeData) :=
  match Pairs.find? "prevNode" members with
  | none | some .null => .ok none
  | some (.object node) => .ok (some (NodeData.ofMembers node))
  | some _ => .error .previousNotObject

/-- What stands in front of the names of fields of the node as it was before. -/
def previousLabel : String := "prevNode."

/-- The entries for the node as it was before: its fields, then its value. -/
def previousEntries (key : String) (data : NodeData) : List (String × String) :=
  data.fieldEntries key previousLabel ++
    data.valueEntry (Companion.key key (previousLabel ++ "value"))

/-- The entries for a key that was read: its value and its fields. -/
def readEntries (key : String) (data : NodeData) : List (String × String) :=
  data.valueEntry key ++ data.fieldEntries key ""

/-- Fill in the entries for the node as it was before. -/
def fillPrevious (key : String) (members : List (String × Document)) :
    Progress AnswerFault (String × String) :=
  .after (previous members) fun before =>
    { items := before.toList.flatMap (previousEntries key) }

/-- Fill in the entries of an answer to a read. -/
def fillRead (key : String) (members : List (String × Document)) :
    Progress AnswerFault (String × String) :=
  .after (node members) fun data => { items := readEntries key data }

/-- Fill in the entries of an answer to a write. -/
def fillWrite (key : String) (members : List (String × Document)) :
    Progress AnswerFault (String × String) :=
  (fillRead key members).andThen (fillPrevious key members)

/-- Fill in the entries of an answer to a removal: the fields of the node, and the node as it was. -/
def fillRemove (key : String) (members : List (String × Document)) :
    Progress AnswerFault (String × String) :=
  (Progress.after (node members) fun data => { items := data.fieldEntries key "" }).andThen
    (fillPrevious key members)

/-- Fill in the entries of an answer to a listing, leaf by leaf; one without a node has none. -/
def fillListing (source : String) (members : List (String × Document)) :
    Progress AnswerFault (String × String) :=
  match Pairs.find? "node" members with
  | none | some .null => {}
  | some (.object node) =>
    ((Node.walk (.object node)).mapFault .listed).flatMap (Leaf.entries source)
  | some _ => .ended .listingNotObject

end Answer

end Keyspace
