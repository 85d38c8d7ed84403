import Keyspace.Companion
import Keyspace.Document.Shown
import Keyspace.Progress

/-!
# Nodes

A node of the keyspace is an object. A leaf has a key, and may have a value and some of four
fields of metadata; a directory has children. A listing is flattened into its leaves in the order
of the document, and directories add nothing of their own. A walk over a listing ends at the first
node that is not as it should be.
-/

namespace Keyspace

/-- What a node tells about itself, as texts. -/
structure NodeData where
  value : Option String
  /-- The fields that are present, in their fixed order. -/
  fields : List (String × String)
deriving DecidableEq, Repr

namespace NodeData

/-- The fields of metadata that a node may have. -/
def fieldNames : List String := ["createdIndex", "modifiedIndex", "expiration", "ttl"]

/-- The data in the members of a node. -/
def ofMembers (members : List (String × Document)) : NodeData where
  value := (Pairs.find? "value" members).map Document.shown
  fields := fieldNames.filterMap fun name =>
    (Pairs.find? name members).map fun field => (name, field.shown)

/-- The value at its key, if there is one. -/
def valueEntry (key : String) (data : NodeData) : List (String × String) :=
  data.value.toList.map fun value => (key, value)

/-- The fields at companions of a key; `label` stands in front of their names. -/
def fieldEntries (key label : String) (data : NodeData) : List (String × String) :=
  data.fields.map fun (name, value) => (Companion.key key (label ++ name), value)

end NodeData

/-- A leaf of a listing. -/
structure Leaf where
  /-- The key, with one leading slash removed. -/
  key : String
  data : NodeData
deriving DecidableEq, Repr

/-- Why a document lists no nodes. -/
inductive NodeFault where
  /-- A listed node is not an object. -/
  | notObject
  /-- A leaf has no key. -/
  | keyMissing
  /-- The key of a leaf is not a text. -/
  | keyNotText (key : Document)
  /-- The children of a directory cannot be walked over. -/
  | childrenNotIterable (children : Document)
deriving DecidableEq, Repr

namespace Leaf

/-- A key with one leading slash removed. -/
def withoutSlash (key : String) : String :=
  match key.toList with
  | '/' :: rest => String.ofList rest
  | _ => key

/-- The leaf with the members of a node. -/
def ofMembers (members : List (String × Document)) : Except NodeFault Leaf :=
  match Pairs.find? "key" members with
  | none => .error .keyMissing
  | some (.text key) => .ok { key := withoutSlash key, data := .ofMembers members }
  | some other => .error (.keyNotText other)

/-- What a leaf adds to a flat map: its value, its fields and the place that it comes from. -/
def entries (source : String) (leaf : Leaf) : List (String × String) :=
  leaf.data.valueEntry leaf.key ++ leaf.data.fieldEntries leaf.key "" ++
    [(Companion.key leaf.key Companion.sourceName, source)]

end Leaf

namespace Node

/-- The members of a node make it a directory. -/
def isDirectory (members : List (String × Document)) : Bool :=
  (Pairs.find? "dir" members).any Document.isTruthy

mutual

/-- Walk over a node and all nodes below it, from leaf to leaf. -/
def walk : Document → Progress NodeFault Leaf
  | .object members =>
    if isDirectory members then walkMembers members
    else .after (Leaf.ofMembers members) fun leaf => { items := [leaf] }
  | _ => .ended .notObject
termination_by structural document => document

/-- Walk over the children named in the members of a directory. -/
def walkMembers : List (String × Document) → Progress NodeFault Leaf
  | [] => {}
  | (name, children) :: later =>
    if name = "nodes" then walkChildren children else walkMembers later
termination_by structural members => members

/-- Walk over the children of a directory. Texts and objects are walked over as well, but what they
consist of is no node. -/
def walkChildren : Document → Progress NodeFault Leaf
  | .array children => walkList children
  | .null => {}
  | .text text => if text = "" then {} else .ended .notObject
  | .object members => if members.isEmpty then {} else .ended .notObject
  | number => if number.isTruthy then .ended (.childrenNotIterable number) else {}
termination_by structural document => document

/-- Walk over several nodes, one after the other. -/
def walkList : List Document → Progress NodeFault Leaf
  | [] => {}
  | child :: later => (walk child).andThen (walkList later)
termination_by structural children => children

end

end Node

end Keyspace
