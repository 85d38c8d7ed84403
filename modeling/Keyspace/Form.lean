import Keyspace.Document.Shown
import Keyspace.Text.Fields
import Keyspace.Text.Percent

/-!
# Form bodies

A form is a list of names with values, written as `name=value` and parted by ampersands. Spaces
become plus signs and all but the unreserved characters are escaped.
-/

namespace Keyspace.Form

/-- The media type of a form. -/
def mediaType : String := "application/x-www-form-urlencoded"

/-- One character of a name or value. -/
def writeCharacter (character : Char) : List Char :=
  if character = ' ' then ['+']
  else if Text.Percent.isUnreserved character then [character]
  else Text.Percent.escape character

/-- A name or value. -/
def writeText (text : String) : List Char := text.toList.flatMap writeCharacter

/-- A name with its value. -/
def writeField (field : String × String) : List Char :=
  writeText field.1 ++ '=' :: writeText field.2

/-- The body of a form. -/
def write (fields : List (String × String)) : String :=
  String.ofList (Text.unfields '&' (fields.map writeField))

/-- A single value in a form: truth values in lower case, nothing as the empty text. -/
def valueText : Document → String
  | .bool true => "true"
  | .bool false => "false"
  | .null => ""
  | other => other.shown

/-- The values that a document gives to its name: one for each item of a list, else one. -/
def values : Document → List String
  | .array items => items.map valueText
  | single => [valueText single]

/-- The fields of a name with a document as its value. -/
def fields (name : String) (value : Document) : List (String × String) :=
  (values value).map fun text => (name, text)

end Keyspace.Form
