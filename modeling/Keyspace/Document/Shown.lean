import Keyspace.Document.Basic
import Keyspace.Number.Shortest
import Keyspace.Text.Quoted

/-!
# Documents as text

A value that goes into a flat map, a form or a message is shown as text: a text as it is, numbers
in decimal, truth values and nothing by name, lists in brackets and objects in braces with quoted
texts inside.
-/

namespace Keyspace.Document

/-- Documents without members, shown in one piece; `quote` shows texts. -/
def leafForm (quote : String → String) : Document → List Char
  | .null => ['N', 'o', 'n', 'e']
  | .bool true => ['T', 'r', 'u', 'e']
  | .bool false => ['F', 'a', 'l', 's', 'e']
  | .int value => (Number.integerText value).toList
  | .real value => value.text.toList
  | .text value => (quote value).toList
  | .array _ => []
  | .object _ => []

mutual

/-- A document inside another one, with its texts quoted by `quote`. -/
def form (quote : String → String) : Document → List Char
  | .array items => '[' :: itemsForm quote items ++ [']']
  | .object members => '{' :: membersForm quote members ++ ['}']
  | leaf => leafForm quote leaf
termination_by structural document => document

/-- The items of a list, parted by commas. -/
def itemsForm (quote : String → String) : List Document → List Char
  | [] => []
  | item :: later =>
    form quote item ++ (if later.isEmpty then [] else [',', ' ']) ++ itemsForm quote later
termination_by structural items => items

/-- The members of an object, parted by commas. -/
def membersForm (quote : String → String) : List (String × Document) → List Char
  | [] => []
  | (name, value) :: later =>
    (quote name).toList ++ [':', ' '] ++ form quote value ++
      (if later.isEmpty then [] else [',', ' ']) ++ membersForm quote later
termination_by structural members => members

end

/-- The quoted form of a document. -/
def quotedForm (document : Document) : String :=
  String.ofList (form Text.quoted document)

/-- The quoted form of a document in ASCII. -/
def quotedAsciiForm (document : Document) : String :=
  String.ofList (form Text.quotedAscii document)

/-- The text of a document: a text as it is, anything else in quoted form. -/
def shown : Document → String
  | .text value => value
  | other => other.quotedForm

@[simp] theorem shown_text (value : String) : (text value).shown = value := rfl

@[simp] theorem shown_int (value : Int) : (int value).shown = Number.integerText value := by
  simp [shown, quotedForm, form, leafForm]

end Keyspace.Document
