/-!
# Percent encoding

A character that may not stand for itself is written as its UTF-8 octets, each a percent sign and
two upper-case hexadecimal digits. Which characters stand for themselves depends on the place the
text goes to and is a parameter.
-/

namespace Keyspace.Text.Percent

/-- An upper-case hexadecimal digit. -/
def hexDigit (value : Nat) : Char :=
  if value < 10 then Char.ofNat (0x30 + value) else Char.ofNat (0x37 + value)

/-- One octet as a percent sign and two digits. -/
def escapeOctet (octet : UInt8) : List Char :=
  ['%', hexDigit (octet.toNat / 16), hexDigit (octet.toNat % 16)]

/-- A character as the escapes of its octets. -/
def escape (character : Char) : List Char :=
  (String.utf8EncodeChar character).flatMap escapeOctet

/-- Letters, digits, hyphen, point, underscore and tilde stand for themselves everywhere. -/
def isUnreserved (character : Char) : Bool :=
  character.isAlphanum || character = '-' || character = '.' || character = '_' || character = '~'

/-- A visible ASCII character that is not among some excluded ones. -/
def isVisibleExcept (excluded : List Char) (character : Char) : Bool :=
  0x21 ≤ character.toNat && character.toNat ≤ 0x7E && !excluded.contains character

/-- Write the characters that satisfy `safe` as they are and escape the others. -/
def encode (safe : Char → Bool) (text : List Char) : List Char :=
  text.flatMap fun character => if safe character then [character] else escape character

end Keyspace.Text.Percent
