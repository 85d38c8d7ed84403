import Keyspace.Text.Hexadecimal
import Keyspace.Text.Printable

/-!
# Quoted text

Texts inside messages stand in single quotes, or in double quotes when they hold a single quote
and no double one. Backslashes and the quote itself are escaped, tab, line feed and carriage
return have letters, and every other character that is not printable is written by its code point
in hexadecimal, two, four or eight digits wide.
-/

namespace Keyspace.Text

/-- The escape of a character by its code point. -/
def escapeByCode (character : Char) : List Char :=
  if character.toNat < 0x100 then '\\' :: 'x' :: hexadecimal 2 character.toNat
  else if character.toNat < 0x10000 then '\\' :: 'u' :: hexadecimal 4 character.toNat
  else '\\' :: 'U' :: hexadecimal 8 character.toNat

/-- One character of a text quoted with `quote`, when `visible` tells what shows as itself. -/
def quoteCharacter (visible : Char → Bool) (quote character : Char) : List Char :=
  if character = quote ∨ character = '\\' then ['\\', character]
  else if character = '\t' then ['\\', 't']
  else if character = '\n' then ['\\', 'n']
  else if character = '\r' then ['\\', 'r']
  else if visible character then [character]
  else escapeByCode character

/-- The quote that a text calls for. -/
def quoteFor (text : List Char) : Char :=
  if text.contains '\'' && !text.contains '"' then '"' else '\''

/-- The quoted form of a text, when `visible` tells what shows as itself. -/
def quotedBy (visible : Char → Bool) (text : String) : String :=
  let quote := quoteFor text.toList
  String.ofList (quote :: text.toList.flatMap (quoteCharacter visible quote) ++ [quote])

/-- The quoted form of a text. -/
def quoted (text : String) : String := quotedBy isPrintable text

/-- The quoted form of a text in which only ASCII characters show as themselves. -/
def quotedAscii (text : String) : String :=
  quotedBy (fun character => isPrintable character && character.toNat < 0x80) text

end Keyspace.Text
