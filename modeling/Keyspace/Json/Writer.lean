import Keyspace.Document.Basic
import Keyspace.Number.Shortest
import Keyspace.Text.Quoted

/-!
# Writing JSON

A document is written on one line: members and items are parted by a comma and a space, names end
in a colon and a space. In texts the quote, the backslash and the characters below U+0020 are
escaped, five of these by a letter; all other characters stand for themselves.
-/

namespace Keyspace.Json

/-- One character inside a JSON text. -/
def writeCharacter (character : Char) : List Char :=
  if character = '"' then ['\\', '"']
  else if character = '\\' then ['\\', '\\']
  else if character = '\n' then ['\\', 'n']
  else if character = '\r' then ['\\', 'r']
  else if character = '\t' then ['\\', 't']
  else if character.toNat = 0x08 then ['\\', 'b']
  else if character.toNat = 0x0C then ['\\', 'f']
  else if character.toNat < 0x20 then '\\' :: 'u' :: Text.hexadecimal 4 character.toNat
  else [character]

/-- A text in quotes. -/
def writeText (text : String) : List Char :=
  '"' :: text.toList.flatMap writeCharacter ++ ['"']

/-- A binary64 value; the infinities and not-a-number have names. -/
def writeReal : Binary64 → List Char
  | .infinite false => "Infinity".toList
  | .infinite true => "-Infinity".toList
  | .nan => "NaN".toList
  | value => value.text.toList

/-- Documents without members, written in one piece. -/
def writeLeaf : Document → List Char
  | .null => ['n', 'u', 'l', 'l']
  | .bool true => ['t', 'r', 'u', 'e']
  | .bool false => ['f', 'a', 'l', 's', 'e']
  | .int value => (Number.integerText value).toList
  | .real value => writeReal value
  | .text value => writeText value
  | .array _ => []
  | .object _ => []

mutual

/-- The JSON text of a document, as characters. -/
def writeList : Document → List Char
  | .array items => '[' :: writeItems items ++ [']']
  | .object members => '{' :: writeMembers members ++ ['}']
  | leaf => writeLeaf leaf
termination_by structural document => document

/-- The items of a list. -/
def writeItems : List Document → List Char
  | [] => []
  | item :: later =>
    writeList item ++ (if later.isEmpty then [] else [',', ' ']) ++ writeItems later
termination_by structural items => items

/-- The members of an object. -/
def writeMembers : List (String × Document) → List Char
  | [] => []
  | (name, value) :: later =>
    writeText name ++ [':', ' '] ++ writeList value ++
      (if later.isEmpty then [] else [',', ' ']) ++ writeMembers later
termination_by structural members => members

end

/-- The JSON text of a document. -/
def write (document : Document) : String := String.ofList (writeList document)

end Keyspace.Json
