import Keyspace.Proofs.Answer

/-!
# Documents without their values

Two documents differ only in values when they are the same once the values of all nodes are blanked.
What is read from a blanked document is what is read from the document itself, blanked: leaves,
nodes and faults. So the keys of the entries of an answer, and what is wrong with it, do not depend
on the values in it (`Answer.map_keys_ofListing_blanked` and its like).
-/

namespace Keyspace

/-- The data of a node, with a null in the place of its value. -/
def NodeData.blanked (data : NodeData) : NodeData :=
  { data with value := data.value.map fun _ => Document.null.shown }

/-- A leaf with a null in the place of its value. -/
def Leaf.blanked (leaf : Leaf) : Leaf := { leaf with data := leaf.data.blanked }

namespace Node

mutual

/-- A node with a null in the place of each value, its own and those of the nodes below it. -/
def blanked : Document → Document
  | .object members => .object (blankedMembers members)
  | other => other
termination_by structural document => document

/-- The members of such a node. -/
def blankedMembers : List (String × Document) → List (String × Document)
  | [] => []
  | (name, document) :: later =>
    (name, if name = "value" then .null
      else if name = "nodes" then blankedChildren document else document) :: blankedMembers later
termination_by structural members => members

/-- The children of such a node. -/
def blankedChildren : Document → Document
  | .array children => .array (blankedList children)
  | other => other
termination_by structural document => document

/-- Several such nodes. -/
def blankedList : List Document → List Document
  | [] => []
  | child :: later => blanked child :: blankedList later
termination_by structural children => children

end

variable {name : String} {members : List (String × Document)}

/-- Only values and children are blanked. -/
theorem find?_blankedMembers (notValue : name ≠ "value") (notNodes : name ≠ "nodes")
    (members : List (String × Document)) :
    Pairs.find? name (blankedMembers members) = Pairs.find? name members := by
  induction members with
  | nil => rfl
  | cons member later inductionHypothesis =>
    obtain ⟨present, document⟩ := member
    by_cases same : present = name
    · subst same
      simp [blankedMembers, Pairs.find?, notValue, notNodes]
    · simp [blankedMembers, Pairs.find?, same, inductionHypothesis]

/-- Where there is a value there is a null, and nowhere else. -/
theorem find?_value_blankedMembers (members : List (String × Document)) :
    Pairs.find? "value" (blankedMembers members) =
      (Pairs.find? "value" members).map fun _ => .null := by
  induction members with
  | nil => rfl
  | cons member later inductionHypothesis =>
    obtain ⟨present, document⟩ := member
    by_cases same : present = "value"
    · simp [blankedMembers, Pairs.find?, same]
    · simp [blankedMembers, Pairs.find?, same, inductionHypothesis]

@[simp] theorem isDirectory_blankedMembers (members : List (String × Document)) :
    isDirectory (blankedMembers members) = isDirectory members := by
  rw [isDirectory, find?_blankedMembers (by decide) (by decide), isDirectory]

@[simp] theorem ofMembers_blankedMembers (members : List (String × Document)) :
    NodeData.ofMembers (blankedMembers members) = (NodeData.ofMembers members).blanked := by
  have sameFields : ∀ name ∈ NodeData.fieldNames,
      (Pairs.find? name (blankedMembers members)).map (fun field => (name, field.shown)) =
        (Pairs.find? name members).map fun field => (name, field.shown) := by
    intro name isField
    have apart : ∀ name ∈ NodeData.fieldNames, name ≠ "value" ∧ name ≠ "nodes" := by
      decide +kernel
    rw [find?_blankedMembers (apart name isField).1 (apart name isField).2]
  simp only [NodeData.ofMembers, NodeData.blanked, find?_value_blankedMembers, Option.map_map,
    List.filterMap_congr sameFields]
  rfl

theorem leaf_blankedMembers (members : List (String × Document)) :
    Leaf.ofMembers (blankedMembers members) = (Leaf.ofMembers members).map Leaf.blanked := by
  unfold Leaf.ofMembers
  rw [find?_blankedMembers (by decide) (by decide), ofMembers_blankedMembers]
  split <;> rfl

mutual

/-- The leaves of a blanked document are its leaves, blanked. -/
theorem leaves_blanked : ∀ document : Document,
    leaves (blanked document) = (leaves document).map (List.map Leaf.blanked)
  | .object members => by
    rw [blanked, leaves, leaves, isDirectory_blankedMembers]
    split
    · exact memberLeaves_blankedMembers members
    · rw [leaf_blankedMembers]
      cases Leaf.ofMembers members <;> rfl
  | .null | .bool _ | .int _ | .real _ | .text _ | .array _ => by
    simp [blanked, leaves, Except.map]
termination_by structural document => document

/-- The same of the leaves below the children named in members. -/
theorem memberLeaves_blankedMembers : ∀ members : List (String × Document),
    memberLeaves (blankedMembers members) = (memberLeaves members).map (List.map Leaf.blanked)
  | [] => rfl
  | (name, document) :: later => by
    rw [blankedMembers, memberLeaves, memberLeaves]
    split
    · next isNodes =>
      subst isNodes
      exact childLeaves_blankedChildren document
    · exact memberLeaves_blankedMembers later
termination_by structural members => members

/-- The same of the leaves below children. -/
theorem childLeaves_blankedChildren : ∀ document : Document,
    childLeaves (blankedChildren document) = (childLeaves document).map (List.map Leaf.blanked)
  | .array children => by
    rw [blankedChildren, childLeaves, childLeaves]
    exact listLeaves_blankedList children
  | .null => rfl
  | .text _ | .object _ | .bool _ | .int _ | .real _ => by
    simp only [blankedChildren, childLeaves]
    split <;> rfl
termination_by structural document => document

/-- The same of the leaves below several nodes. -/
theorem listLeaves_blankedList : ∀ children : List Document,
    listLeaves (blankedList children) = (listLeaves children).map (List.map Leaf.blanked)
  | [] => rfl
  | child :: later => by
    rw [blankedList, listLeaves, listLeaves, leaves_blanked child, listLeaves_blankedList later]
    cases leaves child with
    | error fault => rfl
    | ok first =>
      cases listLeaves later with
      | error fault => rfl
      | ok rest => simp [Except.map, bind, Except.bind, pure, Except.pure]
termination_by structural children => children

end

end Node

namespace Answer

/-- A member of an answer, blanked when it is a node. -/
def blankedMember (name : String) (document : Document) : Document :=
  if name = "node" ∨ name = "prevNode" then Node.blanked document else document

/-- The members of an answer with a null in the place of each value. -/
def blanked (members : List (String × Document)) : List (String × Document) :=
  members.map fun (name, document) => (name, blankedMember name document)

variable {members : List (String × Document)} {key source : String}

/-- A member of an answer is found where it was. -/
theorem find?_blanked (name : String) (members : List (String × Document)) :
    Pairs.find? name (blanked members) = (Pairs.find? name members).map (blankedMember name) := by
  induction members with
  | nil => rfl
  | cons member later inductionHypothesis =>
    obtain ⟨present, document⟩ := member
    rw [blanked, List.map_cons, ← blanked]
    by_cases same : present = name
    · simp [Pairs.find?, same]
    · simp [Pairs.find?, same, inductionHypothesis]

/-- The node of a blanked answer is its node, blanked. -/
theorem node_blanked (members : List (String × Document)) :
    node (blanked members) = (node members).map NodeData.blanked := by
  unfold node
  rw [find?_blanked]
  cases Pairs.find? "node" members with
  | none => rfl
  | some document => cases document <;> simp [blankedMember, Node.blanked, Except.map]

/-- The same of the node as it was before. -/
theorem previous_blanked (members : List (String × Document)) :
    previous (blanked members) = (previous members).map (Option.map NodeData.blanked) := by
  unfold previous
  rw [find?_blanked]
  cases Pairs.find? "prevNode" members with
  | none => rfl
  | some document => cases document <;> simp [blankedMember, Node.blanked, Except.map]

/-- The leaves of a blanked answer are its leaves, blanked. -/
theorem listing_blanked (members : List (String × Document)) :
    listing (blanked members) = (listing members).map (List.map Leaf.blanked) := by
  unfold listing
  rw [find?_blanked]
  cases Pairs.find? "node" members with
  | none => rfl
  | some document =>
    cases document with
    | object node =>
      have leaves := Node.leaves_blanked (.object node)
      rw [Node.blanked] at leaves
      simp only [Option.map_some, blankedMember, true_or, if_true, Node.blanked, leaves]
      cases Node.leaves (.object node) <;> rfl
    | _ => simp [blankedMember, Node.blanked, Except.map]

@[simp] theorem keys_valueEntry_blanked (key : String) (data : NodeData) :
    Pairs.keys (data.blanked.valueEntry key) = Pairs.keys (data.valueEntry key) := by
  cases value : data.value <;> simp [NodeData.valueEntry, NodeData.blanked, value, Pairs.keys]

@[simp] theorem fieldEntries_blanked (key label : String) (data : NodeData) :
    data.blanked.fieldEntries key label = data.fieldEntries key label := rfl

theorem keys_entries_blanked (leaf : Leaf) :
    Pairs.keys (leaf.blanked.entries source) = Pairs.keys (leaf.entries source) := by
  simp only [Leaf.entries, Leaf.blanked, Pairs.keys_append, keys_valueEntry_blanked,
    fieldEntries_blanked]

/-- The keys of what several leaves add do not depend on their values. -/
theorem keys_flatMap_entries_blanked (leaves : List Leaf) :
    Pairs.keys ((leaves.map Leaf.blanked).flatMap (Leaf.entries source)) =
      Pairs.keys (leaves.flatMap (Leaf.entries source)) := by
  induction leaves with
  | nil => rfl
  | cons leaf later inductionHypothesis =>
    rw [List.map_cons, List.flatMap_cons, List.flatMap_cons, Pairs.keys_append, Pairs.keys_append,
      keys_entries_blanked, inductionHypothesis]

/-- The keys of what the node as it was before adds do not depend on its value. -/
theorem keys_previousEntries_blanked (key : String) (before : Option NodeData) :
    Pairs.keys ((before.map NodeData.blanked).toList.flatMap (previousEntries key)) =
      Pairs.keys (before.toList.flatMap (previousEntries key)) := by
  cases before with
  | none => rfl
  | some data =>
    simp only [Option.map_some, Option.toList_some, List.flatMap_cons, List.flatMap_nil,
      List.append_nil, previousEntries, Pairs.keys_append, keys_valueEntry_blanked,
      fieldEntries_blanked]

/-- The keys of an answer to a read do not depend on values in it, nor does what is wrong with it. -/
theorem map_keys_ofRead_blanked (key : String) (members : List (String × Document)) :
    (ofRead key (blanked members)).map Pairs.keys = (ofRead key members).map Pairs.keys := by
  rw [ofRead, ofRead, node_blanked]
  cases node members with
  | error fault => rfl
  | ok data => simp [Except.map, readEntries]

/-- The same of an answer to a write. -/
theorem map_keys_ofWrite_blanked (key : String) (members : List (String × Document)) :
    (ofWrite key (blanked members)).map Pairs.keys = (ofWrite key members).map Pairs.keys := by
  rw [ofWrite, ofWrite, node_blanked, previous_blanked]
  cases node members with
  | error fault => rfl
  | ok data =>
    cases previous members with
    | error fault => rfl
    | ok before =>
      simp [Except.map, bind, Except.bind, pure, Except.pure, readEntries,
        keys_previousEntries_blanked]

/-- The same of an answer to a removal. -/
theorem map_keys_ofRemove_blanked (key : String) (members : List (String × Document)) :
    (ofRemove key (blanked members)).map Pairs.keys = (ofRemove key members).map Pairs.keys := by
  rw [ofRemove, ofRemove, node_blanked, previous_blanked]
  cases node members with
  | error fault => rfl
  | ok data =>
    cases previous members with
    | error fault => rfl
    | ok before =>
      simp [Except.map, bind, Except.bind, pure, Except.pure, keys_previousEntries_blanked]

/-- The same of an answer to a listing. -/
theorem map_keys_ofListing_blanked (source : String) (members : List (String × Document)) :
    (ofListing source (blanked members)).map Pairs.keys =
      (ofListing source members).map Pairs.keys := by
  rw [ofListing, ofListing, listing_blanked]
  cases listing members with
  | error fault => rfl
  | ok leaves => simp [Except.map, keys_flatMap_entries_blanked]

end Answer

/-- A document with a null in the place of each value of its nodes. -/
def Document.blanked : Document → Document
  | .object members => .object (Answer.blanked members)
  | other => other

end Keyspace
