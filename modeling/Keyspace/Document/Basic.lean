import Keyspace.Entries
import Keyspace.Number.Reading

/-!
# Documents

A document is what a JSON text denotes, and what arguments of unknown type are given as: nothing,
a truth value, an integer of any size, a binary64 value, a text, a list, or an object whose
members keep their order of arrival.
-/

namespace Keyspace

/-- The value of a JSON text. -/
inductive Document where
  | null
  | bool (value : Bool)
  | int (value : Int)
  | real (value : Binary64)
  | text (value : String)
  | array (items : List Document)
  | object (members : List (String × Document))
deriving Repr, Inhabited

namespace Document

mutual

/-- Equality of documents is decidable. -/
def decideEqual (left right : Document) : Decidable (left = right) :=
  match left, right with
  | .null, .null => isTrue rfl
  | .bool value, .bool other => decidable_of_iff (value = other) (by simp)
  | .int value, .int other => decidable_of_iff (value = other) (by simp)
  | .real value, .real other => decidable_of_iff (value = other) (by simp)
  | .text value, .text other => decidable_of_iff (value = other) (by simp)
  | .array items, .array others =>
    have := decideItems items others
    decidable_of_iff (items = others) (by simp)
  | .object members, .object others =>
    have := decideMembers members others
    decidable_of_iff (members = others) (by simp)
  | .null, .bool _ | .null, .int _ | .null, .real _ | .null, .text _ | .null, .array _
  | .null, .object _ | .bool _, .null | .bool _, .int _ | .bool _, .real _ | .bool _, .text _
  | .bool _, .array _ | .bool _, .object _ | .int _, .null | .int _, .bool _ | .int _, .real _
  | .int _, .text _ | .int _, .array _ | .int _, .object _ | .real _, .null | .real _, .bool _
  | .real _, .int _ | .real _, .text _ | .real _, .array _ | .real _, .object _ | .text _, .null
  | .text _, .bool _ | .text _, .int _ | .text _, .real _ | .text _, .array _ | .text _, .object _
  | .array _, .null | .array _, .bool _ | .array _, .int _ | .array _, .real _ | .array _, .text _
  | .array _, .object _ | .object _, .null | .object _, .bool _ | .object _, .int _
  | .object _, .real _ | .object _, .text _ | .object _, .array _ => isFalse nofun
termination_by structural left

/-- Equality of lists of documents is decidable. -/
def decideItems (left right : List Document) : Decidable (left = right) :=
  match left, right with
  | [], [] => isTrue rfl
  | [], _ :: _ => isFalse nofun
  | _ :: _, [] => isFalse nofun
  | item :: items, other :: others =>
    have := decideEqual item other
    have := decideItems items others
    decidable_of_iff (item = other ∧ items = others) (by simp)
termination_by structural left

/-- Equality of members is decidable. -/
def decideMembers (left right : List (String × Document)) : Decidable (left = right) :=
  match left, right with
  | [], [] => isTrue rfl
  | [], _ :: _ => isFalse nofun
  | _ :: _, [] => isFalse nofun
  | (name, value) :: members, (otherName, other) :: others =>
    have := decideEqual value other
    have := decideMembers members others
    decidable_of_iff ((name = otherName ∧ value = other) ∧ members = others) (by simp)
termination_by structural left

end

instance : DecidableEq Document := decideEqual

/-- The kinds of documents, as messages name them. -/
def kindName : Document → String
  | .null => "NoneType"
  | .bool _ => "bool"
  | .int _ => "int"
  | .real _ => "float"
  | .text _ => "str"
  | .array _ => "list"
  | .object _ => "dict"

/-- Nothing, zero and whatever is empty count as false, all else as true. -/
def isTruthy : Document → Bool
  | .null => false
  | .bool value => value
  | .int value => value ≠ 0
  | .real value => !value.isZero
  | .text value => value ≠ ""
  | .array items => !items.isEmpty
  | .object members => !members.isEmpty

/-- The number that a document is; truth values count as one and zero. -/
def number? : Document → Option Number
  | .bool value => some (.int (if value then 1 else 0))
  | .int value => some (.int value)
  | .real value => some (.real value)
  | _ => none

/-- The member of an object with a name. -/
def member? (name : String) : Document → Option Document
  | .object members => Pairs.find? name members
  | _ => none

/-- The member of an object with a name, or nothing. -/
def memberOrNull (name : String) (document : Document) : Document :=
  (document.member? name).getD .null

mutual

/-- Documents of equal value: numbers of all kinds are compared by value, objects without regard
to the order of members. -/
def same (left right : Document) : Bool :=
  match left with
  | .null => right = .null
  | .text value => right = .text value
  | .bool value => match right.number? with
    | some other => Number.same (.int (if value then 1 else 0)) other
    | none => false
  | .int value => match right.number? with
    | some other => Number.same (.int value) other
    | none => false
  | .real value => match right.number? with
    | some other => Number.same (.real value) other
    | none => false
  | .array items => match right with
    | .array others => sameItems items others
    | _ => false
  | .object members => match right with
    | .object others => members.length = others.length && sameMembers members others
    | _ => false
termination_by structural left

/-- Lists of the same length with documents of equal value at each place. -/
def sameItems (left right : List Document) : Bool :=
  match left, right with
  | [], [] => true
  | item :: items, other :: others => same item other && sameItems items others
  | _, _ => false
termination_by structural left

/-- Every member on the left has one of equal value on the right. -/
def sameMembers (left right : List (String × Document)) : Bool :=
  match left with
  | [] => true
  | (name, value) :: members => (match Pairs.find? name right with
    | some other => same value other
    | none => false) && sameMembers members right
termination_by structural left

end

mutual

/-- Some integer in the document has more digits than can be written. -/
def isOversized : Document → Bool
  | .int value => Number.isOversized value
  | .array items => anyOversized items
  | .object members => anyMemberOversized members
  | _ => false
termination_by structural document => document

/-- Some document of a list is oversized. -/
def anyOversized : List Document → Bool
  | [] => false
  | item :: later => isOversized item || anyOversized later
termination_by structural items => items

/-- Some member is oversized. -/
def anyMemberOversized : List (String × Document) → Bool
  | [] => false
  | (_, value) :: later => isOversized value || anyMemberOversized later
termination_by structural members => members

end

/-- The items of a document that can be walked over: a text is walked over by its characters, an
object by its names. -/
def items? : Document → Option (List Document)
  | .array items => some items
  | .text value => some (value.toList.map fun character => .text (String.ofList [character]))
  | .object members => some (members.map fun member => .text member.1)
  | _ => none

/-- The text of a document that is one. -/
def text? : Document → Option String
  | .text value => some value
  | _ => none

end Document

end Keyspace
