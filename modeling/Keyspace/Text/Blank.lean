import Keyspace.Text.Ranges

/-!
# Blank characters

Blanks are the characters with the Unicode property White_Space together with the four
information separators U+001C to U+001F. Settings are trimmed of all of them; numerals are
trimmed of all but the separators.
-/

namespace Keyspace.Text

/-- The blank characters. -/
def blankRanges : Ranges :=
  [(0x09, 0x0D), (0x1C, 0x20), (0x85, 0x85), (0xA0, 0xA0), (0x1680, 0x1680), (0x2000, 0x200A),
   (0x2028, 0x2029), (0x202F, 0x202F), (0x205F, 0x205F), (0x3000, 0x3000)]

/-- A character that trimming a setting removes. -/
def isBlank (character : Char) : Bool :=
  blankRanges.covers character.toNat

/-- A character that may surround a numeral: a blank that is no information separator. -/
def isNumeralBlank (character : Char) : Bool :=
  isBlank character && !(0x1C ≤ character.toNat && character.toNat ≤ 0x1F)

/-- Remove the leading and trailing characters that satisfy a predicate. -/
def trimBy (removable : Char → Bool) (text : List Char) : List Char :=
  ((text.dropWhile removable).reverse.dropWhile removable).reverse

/-- Remove leading and trailing blanks. -/
def trim (text : String) : String :=
  String.ofList (trimBy isBlank text.toList)

end Keyspace.Text
