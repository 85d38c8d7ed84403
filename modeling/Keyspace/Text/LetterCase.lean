import Keyspace.Text.LetterCaseTable

/-!
# Upper case and title case

Level names are matched in upper case and shown in title case. Both are the full mappings of the
tables: one letter may become several, and a capital sigma at the end of a word has a lower-case
form of its own.
-/

namespace Keyspace.Text

/-- The character with a code point. -/
def ofCode (code : Nat) : Char := Char.ofNat code

/-- The image of a code point under the first run that moves it. -/
def CaseRun.image? (code : Nat) : List CaseRun → Option Nat
  | [] => none
  | run :: later =>
    if run.first ≤ code ∧ code ≤ run.last ∧ (code - run.first) % run.step = 0 then
      some ((code : Int) + run.distance).toNat
    else image? code later

/-- The full upper-case mapping of one character. -/
def upperCharacter (character : Char) : List Char :=
  if character.toNat < 0x80 then [character.toUpper]
  else match upperExpansions.lookup character.toNat with
    | some codes => codes.map ofCode
    | none => match CaseRun.image? character.toNat upperRuns with
      | some code => [ofCode code]
      | none => [character]

/-- The full title-case mapping of one character. -/
def titleCharacter (character : Char) : List Char :=
  match titleExceptions.lookup character.toNat with
  | some codes => codes.map ofCode
  | none => upperCharacter character

/-- The full lower-case mapping of one character, taken by itself. -/
def lowerCharacter (character : Char) : List Char :=
  if character.toNat < 0x80 then [character.toLower]
  else if character.toNat = 0x130 then [ofCode 0x69, ofCode 0x307]
  else match CaseRun.image? character.toNat lowerRuns with
    | some code => [ofCode code]
    | none => [character]

/-- A character with letter case. -/
def isCased (character : Char) : Bool := casedRanges.covers character.toNat

/-- A character that does not separate a letter from the end of its word. -/
def isCaseIgnorable (character : Char) : Bool := caseIgnorableRanges.covers character.toNat

/-- Whether the first character that counts for case is a letter with case. -/
def meetsCased (text : List Char) : Bool :=
  match text.dropWhile isCaseIgnorable with
  | [] => false
  | character :: _ => isCased character

/-- Lower case inside a word, given what stands before (nearest first) and after. -/
def lowerWithin (before : List Char) (character : Char) (after : List Char) : List Char :=
  if character.toNat = 0x3A3 then
    if meetsCased before && !meetsCased after then [ofCode 0x3C2] else [ofCode 0x3C3]
  else lowerCharacter character

/-- Upper case of a whole text. -/
def upper (text : String) : String :=
  String.ofList (text.toList.flatMap upperCharacter)

/-- Title case from left to right: a letter after a letter goes to lower case, any other to title
case. The accumulator holds the characters already passed, nearest first. -/
def titleFrom (before : List Char) : List Char → List Char
  | [] => []
  | character :: after =>
    let shown :=
      if (before.head?.map isCased).getD false then lowerWithin before character after
      else titleCharacter character
    shown ++ titleFrom (character :: before) after

/-- Title case of a whole text. -/
def title (text : String) : String :=
  String.ofList (titleFrom [] text.toList)

end Keyspace.Text
