import Keyspace.Node
import Mathlib.Data.List.Basic

/-!
# What nodes add to flat maps

The data of a node has one of four field names at each of its companions. A walk over a document that
is not ended by a fault comes to its `leaves` (`result_walk`). The nodes that a document reaches are
listed here by plain recursion over children (`reached`), and `made_leaves` says that the leaves of a
listing are made from them, one from each and in their order.
-/

namespace Keyspace

/-- The data of a node names only the four fields. -/
def NodeData.IsFromNode (data : NodeData) : Prop :=
  ∀ field ∈ data.fields, field.1 ∈ NodeData.fieldNames

namespace NodeData

/-- Data made from members names only the four fields. -/
theorem isFromNode_ofMembers (members : List (String × Document)) :
    (ofMembers members).IsFromNode := by
  intro field isField
  obtain ⟨name, isName, found⟩ := List.mem_filterMap.1 isField
  obtain ⟨document, -, rfl⟩ := Option.map_eq_some_iff.1 found
  exact isName

/-- Data made from members names fields in their fixed order. -/
theorem keys_fields_sublist (members : List (String × Document)) :
    (Pairs.keys (ofMembers members).fields).Sublist fieldNames := by
  have named : Pairs.keys (ofMembers members).fields =
      fieldNames.filter fun name => (Pairs.find? name members).isSome := by
    simp only [Pairs.keys, ofMembers]
    induction fieldNames with
    | nil => rfl
    | cons name later inductionHypothesis =>
      cases found : Pairs.find? name members <;> simp [found, inductionHypothesis]
  rw [named]
  exact List.filter_sublist

theorem nodup_keys_fields (members : List (String × Document)) :
    (Pairs.keys (ofMembers members).fields).Nodup := by
  have distinct : fieldNames.Nodup := by decide
  exact distinct.sublist (keys_fields_sublist members)

theorem not_mem_fieldNames : ∀ name ∈ fieldNames, '.' ∉ name.toList := by decide +kernel

theorem valuesAt_valueEntry (key owner : String) (data : NodeData) :
    Pairs.valuesAt key (data.valueEntry owner) = if owner = key then data.value.toList else [] := by
  cases value : data.value with
  | none => simp [valueEntry, value, Pairs.valuesAt]
  | some shown => simp [valueEntry, value]

/-- Fields have no values where no companion with one of their names is. -/
theorem valuesAt_fieldEntries {key owner : String} {data : NodeData} (label : String)
    (isFromNode : data.IsFromNode)
    (apart : ∀ name ∈ fieldNames, Companion.key owner (label ++ name) ≠ key) :
    Pairs.valuesAt key (data.fieldEntries owner label) = [] := by
  refine Pairs.valuesAt_eq_nil ?_
  intro isKey
  simp only [Pairs.keys, fieldEntries, List.map_map, List.mem_map, Function.comp] at isKey
  obtain ⟨field, isField, isKey⟩ := isKey
  exact apart field.1 (isFromNode field isField) isKey

/-- The values of fields at a companion of a key. -/
theorem valuesAt_fieldEntries_key {key owner name : String} {data : NodeData}
    (isFromNode : data.IsFromNode) (plain : '.' ∉ name.toList) :
    Pairs.valuesAt (Companion.key key name) (data.fieldEntries owner "") =
      if owner = key then Pairs.valuesAt name data.fields else [] := by
  split
  · next same =>
    subst same
    simp [Pairs.valuesAt, fieldEntries, List.filterMap_map]
  · next apart =>
    refine valuesAt_fieldEntries "" isFromNode fun field isField same => apart ?_
    rw [String.empty_append] at same
    exact ((Companion.key_eq_key_iff (not_mem_fieldNames field isField) plain).1 same).1

end NodeData

namespace Node

mutual

/-- The leaves of a node and of all nodes below it. -/
def leaves : Document → Except NodeFault (List Leaf)
  | .object members =>
    if isDirectory members then memberLeaves members
    else (Leaf.ofMembers members).map fun leaf => [leaf]
  | _ => .error .notObject
termination_by structural document => document

/-- The leaves below the children named in the members of a directory. -/
def memberLeaves : List (String × Document) → Except NodeFault (List Leaf)
  | [] => .ok []
  | (name, children) :: later =>
    if name = "nodes" then childLeaves children else memberLeaves later
termination_by structural members => members

/-- The leaves below the children of a directory. Texts and objects are walked over as well, but
what they consist of is no node. -/
def childLeaves : Document → Except NodeFault (List Leaf)
  | .array children => listLeaves children
  | .null => .ok []
  | .text text => if text = "" then .ok [] else .error .notObject
  | .object members => if members.isEmpty then .ok [] else .error .notObject
  | number => if number.isTruthy then .error (.childrenNotIterable number) else .ok []
termination_by structural document => document

/-- The leaves of several nodes, one after the other. -/
def listLeaves : List Document → Except NodeFault (List Leaf)
  | [] => .ok []
  | child :: later => do
    let first ← leaves child
    let rest ← listLeaves later
    return first ++ rest
termination_by structural children => children

end

mutual

/-- A walk over a node comes to its leaves, or to the fault that there is in their place. -/
theorem result_walk : ∀ document : Document, (walk document).result = leaves document
  | .object members => by
    rw [walk, leaves]
    split
    · exact result_walkMembers members
    · rw [Progress.result_after]
      cases Leaf.ofMembers members <;> rfl
  | .null | .bool _ | .int _ | .real _ | .text _ | .array _ => rfl
termination_by structural document => document

theorem result_walkMembers : ∀ members : List (String × Document),
    (walkMembers members).result = memberLeaves members
  | [] => rfl
  | (name, children) :: later => by
    rw [walkMembers, memberLeaves]
    split
    · exact result_walkChildren children
    · exact result_walkMembers later
termination_by structural members => members

theorem result_walkChildren : ∀ document : Document,
    (walkChildren document).result = childLeaves document
  | .array children => by
    rw [walkChildren, childLeaves]
    exact result_walkList children
  | .null => rfl
  | .text _ | .object _ | .bool _ | .int _ | .real _ => by
    simp only [walkChildren, childLeaves]
    split <;> rfl
termination_by structural document => document

theorem result_walkList : ∀ items : List Document, (walkList items).result = listLeaves items
  | [] => rfl
  | child :: later => by
    rw [walkList, listLeaves, Progress.result_andThen, result_walk child, result_walkList later]
termination_by structural items => items

end

/-- A member is smaller than the members that it is among. -/
theorem sizeOf_lt_of_find? {name : String} {members : List (String × Document)}
    {document : Document} (found : Pairs.find? name members = some document) :
    sizeOf document < sizeOf members := by
  induction members with
  | nil => simp [Pairs.find?] at found
  | cons member later inductionHypothesis =>
    obtain ⟨present, value⟩ := member
    rw [Pairs.find?] at found
    split at found
    · obtain rfl : value = document := by simpa using found
      simp only [List.cons.sizeOf_spec, Prod.mk.sizeOf_spec]
      omega
    · have smaller := inductionHypothesis found
      simp only [List.cons.sizeOf_spec]
      omega

/-- The documents in a list; what is no list has none. -/
def itemsOf : Document → List Document
  | .array items => items
  | _ => []

/-- The children in the members of a directory. -/
def children (members : List (String × Document)) : List Document :=
  itemsOf ((Pairs.find? "nodes" members).getD .null)

/-- Children are smaller than their directory. -/
theorem sizeOf_lt_of_mem_children {members : List (String × Document)} {child : Document}
    (isChild : child ∈ children members) : sizeOf child < sizeOf (Document.object members) := by
  unfold children at isChild
  cases found : Pairs.find? "nodes" members with
  | none => simp [found, itemsOf] at isChild
  | some document =>
    have inMembers := sizeOf_lt_of_find? found
    rw [found, Option.getD_some] at isChild
    cases document with
    | array items =>
      have inItems : sizeOf child < sizeOf items := List.sizeOf_lt_of_mem isChild
      simp only [Document.array.sizeOf_spec] at inMembers
      simp only [Document.object.sizeOf_spec]
      omega
    | _ => simp [itemsOf] at isChild

/-- The members of the nodes that are reached from a document and are no directories, in the order
of the document. -/
def reached : Document → List (List (String × Document))
  | .object members =>
    if isDirectory members then
      (children members).attach.flatMap fun child => reached child.1
    else [members]
  | _ => []
termination_by document => sizeOf document
decreasing_by exact sizeOf_lt_of_mem_children child.2

/-- A directory reaches what its children reach, and another node reaches itself. -/
theorem reached_object (members : List (String × Document)) :
    reached (.object members) =
      if isDirectory members then (children members).flatMap reached else [members] := by
  rw [reached]
  split
  · rw [List.flatMap_subtype fun _ _ => rfl, List.unattach_attach]
  · rfl

/-- Leaves are made from the members of nodes, one from each. -/
def Made (nodes : List (List (String × Document))) (found : List Leaf) : Prop :=
  nodes.map Leaf.ofMembers = found.map .ok

/-- A leaf is made from each node. -/
theorem Made.exists_leaf {nodes : List (List (String × Document))} {found : List Leaf}
    (made : Made nodes found) {node : List (String × Document)} (isNode : node ∈ nodes) :
    ∃ leaf ∈ found, Leaf.ofMembers node = .ok leaf := by
  have isMade : Leaf.ofMembers node ∈ found.map Except.ok := made ▸ List.mem_map_of_mem isNode
  obtain ⟨leaf, isLeaf, isMade⟩ := List.mem_map.1 isMade
  exact ⟨leaf, isLeaf, isMade.symm⟩

/-- Each leaf is made from a node. -/
theorem Made.exists_node {nodes : List (List (String × Document))} {found : List Leaf}
    (made : Made nodes found) {leaf : Leaf} (isLeaf : leaf ∈ found) :
    ∃ node ∈ nodes, Leaf.ofMembers node = .ok leaf := by
  have isMade : Except.ok leaf ∈ nodes.map Leaf.ofMembers := made ▸ List.mem_map_of_mem isLeaf
  exact List.mem_map.1 isMade

mutual

/-- The leaves of a document are made from the nodes that are reached. -/
theorem made_leaves : ∀ (document : Document) {found : List Leaf},
    leaves document = .ok found → Made (reached document) found
  | .object members, found, isFound => by
    rw [leaves] at isFound
    rw [reached_object]
    split at isFound
    · next isDirectory =>
      rw [if_pos isDirectory]
      exact made_memberLeaves members isFound
    · next notDirectory =>
      rw [if_neg notDirectory]
      cases isLeaf : Leaf.ofMembers members with
      | error fault => simp [isLeaf, Except.map] at isFound
      | ok leaf =>
        simp only [isLeaf, Except.map, Except.ok.injEq] at isFound
        subst isFound
        simp [Made, isLeaf]
  | .null, _, isFound | .bool _, _, isFound | .int _, _, isFound | .real _, _, isFound
  | .text _, _, isFound | .array _, _, isFound => by simp [leaves] at isFound
termination_by structural document => document

/-- The same of the leaves below the children named in members. -/
theorem made_memberLeaves : ∀ (members : List (String × Document)) {found : List Leaf},
    memberLeaves members = .ok found → Made ((children members).flatMap reached) found
  | [], found, isFound => by
    simp only [memberLeaves, Except.ok.injEq] at isFound
    subst isFound
    rfl
  | (name, value) :: later, found, isFound => by
    rw [memberLeaves] at isFound
    split at isFound
    · next isNodes =>
      have made := made_childLeaves value isFound
      simpa [children, Pairs.find?, isNodes] using made
    · next notNodes =>
      have made := made_memberLeaves later isFound
      simpa [children, Pairs.find?, notNodes] using made
termination_by structural members => members

/-- The same of the leaves below children. -/
theorem made_childLeaves : ∀ (document : Document) {found : List Leaf},
    childLeaves document = .ok found →
      Made ((itemsOf document).flatMap reached) found
  | .array items, found, isFound => by
    rw [childLeaves] at isFound
    exact made_listLeaves items isFound
  | .null, found, isFound => by
    simp only [childLeaves, Except.ok.injEq] at isFound
    subst isFound
    rfl
  | .text _, found, isFound | .object _, found, isFound | .bool _, found, isFound
  | .int _, found, isFound | .real _, found, isFound => by
    simp only [childLeaves] at isFound
    split at isFound <;> cases isFound
    rfl
termination_by structural document => document

/-- The same of the leaves below several nodes. -/
theorem made_listLeaves : ∀ (items : List Document) {found : List Leaf},
    listLeaves items = .ok found → Made (items.flatMap reached) found
  | [], found, isFound => by
    simp only [listLeaves, Except.ok.injEq] at isFound
    subst isFound
    rfl
  | child :: later, found, isFound => by
    simp only [listLeaves, bind, Except.bind] at isFound
    split at isFound
    · simp at isFound
    next first isFirst =>
    split at isFound
    · simp at isFound
    next rest isRest =>
    simp only [pure, Except.pure, Except.ok.injEq] at isFound
    subst isFound
    rw [Made, List.flatMap_cons, List.map_append, List.map_append, made_leaves child isFirst,
      made_listLeaves later isRest]
termination_by structural items => items

end

/-- What holds of every leaf made from members holds of every leaf of a listing. -/
theorem forall_mem_leaves {property : Leaf → Prop}
    (made : ∀ members leaf, Leaf.ofMembers members = .ok leaf → property leaf)
    (document : Document) {found : List Leaf} (isFound : leaves document = .ok found) :
    ∀ leaf ∈ found, property leaf := by
  intro leaf isLeaf
  obtain ⟨node, -, isMade⟩ := (made_leaves document isFound).exists_node isLeaf
  exact made node leaf isMade

end Node

end Keyspace
