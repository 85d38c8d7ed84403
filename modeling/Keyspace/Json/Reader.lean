import Keyspace.Document.Basic
import Keyspace.Number.Shortest
import Keyspace.Text.Fields
import Keyspace.Text.Hexadecimal

/-!
# Reading JSON

The reader takes a text as a list of characters and returns the value at its front together with
what remains. Beside the standard grammar it takes `NaN` and the two infinities. A fault records
what was wrong and how much of the text remained at the offending place; line, column and position
are computed from that at the end. What is read is Unicode: an escape for one half of a surrogate pair
that stands alone is read as the replacement character.
-/

namespace Keyspace.Json

/-- What can be wrong with a JSON text. -/
inductive ReadProblem where
  | expectingValue
  | expectingName
  | expectingColon
  | expectingComma
  | unterminatedText
  | controlCharacter
  | unknownEscape
  | malformedCodeEscape
  | extraData
  | byteOrderMark
  /-- An integer of too many digits. -/
  | oversizedInteger (digits : Nat)
deriving DecidableEq, Repr

/-- A problem and the number of characters that remain from the offending one on. -/
structure ReadFault where
  problem : ReadProblem
  remaining : Nat
deriving DecidableEq, Repr

/-- Blanks between the tokens of JSON. -/
def isFiller (character : Char) : Bool :=
  character = ' ' || character = '\t' || character = '\n' || character = '\r'

/-- The text after leading blanks. -/
def skipFiller (text : List Char) : List Char := text.dropWhile isFiller

/-- The value of four hexadecimal digits. -/
def codeUnit? (first second third fourth : Char) : Option Nat := do
  let high ← Text.hexValue? first
  let upper ← Text.hexValue? second
  let lower ← Text.hexValue? third
  let low ← Text.hexValue? fourth
  some (((high * 16 + upper) * 16 + lower) * 16 + low)

/-- The character of a pair of code units. -/
def pairCharacter (high low : Nat) : Char :=
  Char.ofNat (0x10000 + (high - 0xD800) * 0x400 + (low - 0xDC00))

/-- Write out the first half of a pair whose second half did not come: it is no character. -/
def abandon (half : Option Nat) (written : List Char) : List Char :=
  if half.isSome then Char.ofNat 0xFFFD :: written else written

/-- Take a code unit after what is written and the half pair before it. -/
def takeUnit (half : Option Nat) (written : List Char) (unit : Nat) : Option Nat × List Char :=
  if 0xD800 ≤ unit ∧ unit ≤ 0xDBFF then (some unit, abandon half written)
  else if 0xDC00 ≤ unit ∧ unit ≤ 0xDFFF then
    match half with
    | some high => (none, pairCharacter high unit :: written)
    | none => (none, Char.ofNat 0xFFFD :: written)
  else (none, Char.ofNat unit :: abandon half written)

/-- The character that a letter after a backslash stands for. -/
def escaped? : Char → Option Char
  | '"' => some '"'
  | '\\' => some '\\'
  | '/' => some '/'
  | 'b' => some (Char.ofNat 0x08)
  | 'f' => some (Char.ofNat 0x0C)
  | 'n' => some '\n'
  | 'r' => some '\r'
  | 't' => some '\t'
  | _ => none

/-- A text after its opening quote. The accumulators are a half pair of code units and the
characters read, last first; `opening` is the number of characters that remained at the opening
quote. A code escape must be followed by at least one character. -/
def textBody (opening : Nat) (half : Option Nat) (written : List Char) :
    List Char → Except ReadFault (List Char × List Char)
  | [] => .error ⟨.unterminatedText, opening⟩
  | character :: rest =>
    if character = '"' then .ok ((abandon half written).reverse, rest)
    else if character = '\\' then
      match rest with
      | [] => .error ⟨.unterminatedText, opening⟩
      | letter :: more =>
        if letter = 'u' then
          match more with
          | first :: second :: third :: fourth :: tail =>
            match codeUnit? first second third fourth with
            | none => .error ⟨.malformedCodeEscape, tail.length + 5⟩
            | some unit =>
              if tail.isEmpty then .error ⟨.malformedCodeEscape, tail.length + 5⟩
              else
                let (half, written) := takeUnit half written unit
                textBody opening half written tail
          | short => .error ⟨.malformedCodeEscape, short.length + 1⟩
        else match escaped? letter with
          | some character => textBody opening none (character :: abandon half written) more
          | none => .error ⟨.unknownEscape, more.length + 2⟩
    else if character.toNat < 0x20 then .error ⟨.controlCharacter, rest.length + 1⟩
    else textBody opening none (character :: abandon half written) rest

/-- The value of an integer numeral of up to the limit of digits. -/
def integerValue (start : List Char) (negative : Bool) (digits : List Char) :
    Except ReadFault Document :=
  if Number.digitLimit < digits.length then
    .error ⟨.oversizedInteger digits.length, start.length⟩
  else .ok (.int (Binary64.signed negative (Number.digitsValue digits)))

/-- The fraction after the whole digits of a numeral, if a point and a digit follow. -/
def fractionPart : List Char → Option (List Char) × List Char
  | '.' :: digit :: rest =>
    if digit.isDigit then (some (digit :: rest.takeWhile Char.isDigit), rest.dropWhile Char.isDigit)
    else (none, '.' :: digit :: rest)
  | text => (none, text)

/-- The power of ten after the digits of a numeral, if it is there in full. -/
def powerPart (text : List Char) : Option Int × List Char :=
  match text with
  | letter :: rest =>
    if letter = 'e' ∨ letter = 'E' then
      let (negative, unsigned) := Number.takeSign rest
      let digits := unsigned.takeWhile Char.isDigit
      if digits.isEmpty then (none, text)
      else (some (Binary64.signed negative (Number.digitsValue digits)),
        unsigned.dropWhile Char.isDigit)
    else (none, text)
  | [] => (none, [])

/-- The whole digits of a numeral: a zero alone, or digits that start with another one. -/
def wholePart : List Char → List Char × List Char
  | '0' :: rest => (['0'], rest)
  | text => (text.takeWhile Char.isDigit, text.dropWhile Char.isDigit)

/-- A numeral, the longest that the text starts with. -/
def numeral (start : List Char) : Except ReadFault (Document × List Char) :=
  let (negative, unsigned) := match start with
    | '-' :: rest => (true, rest)
    | _ => (false, start)
  let (whole, afterWhole) := wholePart unsigned
  if whole.isEmpty then .error ⟨.expectingValue, start.length⟩
  else
    let (fraction?, afterFraction) := fractionPart afterWhole
    let (power?, rest) := powerPart afterFraction
    if fraction?.isNone && power?.isNone then
      (integerValue start negative whole).map fun document => (document, rest)
    else
      let fraction := fraction?.getD []
      let value := Binary64.ofDecimal negative (Number.digitsValue (whole ++ fraction))
        (power?.getD 0 - (fraction.length : Int))
      .ok (.real value, rest)

/-- The names that stand for values. -/
def names : List (List Char × Document) :=
  [("null".toList, .null), ("true".toList, .bool true), ("false".toList, .bool false),
   ("NaN".toList, .real .nan), ("Infinity".toList, .real (.infinite false)),
   ("-Infinity".toList, .real (.infinite true))]

/-- A named value at the front of a text. -/
def named? (text : List Char) : Option (Document × List Char) :=
  names.findSome? fun (name, document) => (Text.after? name text).map fun rest => (document, rest)

/-- A value without members. -/
def leaf (text : List Char) : Except ReadFault (Document × List Char) :=
  match named? text with
  | some found => .ok found
  | none => numeral text

mutual

/-- The value that a text starts with. Every nested call spends one unit of fuel, and no two in a row
leave the text as long as it was, so that twice the length of the text is enough. -/
def value (fuel : Nat) (text : List Char) : Except ReadFault (Document × List Char) :=
  match fuel with
  | 0 => .error ⟨.expectingValue, text.length⟩
  | fuel + 1 =>
    match text with
    | '"' :: rest => do
      let (characters, rest) ← textBody text.length none [] rest
      return (.text (String.ofList characters), rest)
    | '{' :: rest =>
      match skipFiller rest with
      | '}' :: rest => .ok (.object [], rest)
      | rest => members fuel [] rest
    | '[' :: rest =>
      match skipFiller rest with
      | ']' :: rest => .ok (.array [], rest)
      | rest => items fuel [] rest
    | _ => leaf text
termination_by structural fuel

/-- Members up to the closing brace, from a name on. -/
def members (fuel : Nat) (read : List (String × Document)) (text : List Char) :
    Except ReadFault (Document × List Char) :=
  match fuel with
  | 0 => .error ⟨.expectingName, text.length⟩
  | fuel + 1 =>
    match text with
    | '"' :: rest => do
      let (name, rest) ← textBody text.length none [] rest
      match skipFiller rest with
      | ':' :: rest =>
        let (member, rest) ← value fuel (skipFiller rest)
        let read := Pairs.insert (String.ofList name) member read
        match skipFiller rest with
        | '}' :: rest => .ok (.object read, rest)
        | ',' :: rest => members fuel read (skipFiller rest)
        | rest => .error ⟨.expectingComma, rest.length⟩
      | rest => .error ⟨.expectingColon, rest.length⟩
    | _ => .error ⟨.expectingName, text.length⟩
termination_by structural fuel

/-- Items up to the closing bracket, from a value on; the accumulator holds the last one first. -/
def items (fuel : Nat) (read : List Document) (text : List Char) :
    Except ReadFault (Document × List Char) :=
  match fuel with
  | 0 => .error ⟨.expectingValue, text.length⟩
  | fuel + 1 => do
    let (item, rest) ← value fuel text
    match skipFiller rest with
    | ']' :: rest => .ok (.array (item :: read).reverse, rest)
    | ',' :: rest => items fuel (item :: read) (skipFiller rest)
    | rest => .error ⟨.expectingComma, rest.length⟩
termination_by structural fuel

end

/-- The document that a whole text denotes. -/
def read (text : String) : Except ReadFault Document :=
  let characters := text.toList
  if characters.head? = some (Char.ofNat 0xFEFF) then .error ⟨.byteOrderMark, characters.length⟩
  else do
    let (document, rest) ← value (2 * characters.length + 2) (skipFiller characters)
    match skipFiller rest with
    | [] => .ok document
    | extra => .error ⟨.extraData, extra.length⟩

namespace ReadProblem

/-- The wording of a problem. -/
def wording : ReadProblem → String
  | .expectingValue => "Expecting value"
  | .expectingName => "Expecting property name enclosed in double quotes"
  | .expectingColon => "Expecting ':' delimiter"
  | .expectingComma => "Expecting ',' delimiter"
  | .unterminatedText => "Unterminated string starting at"
  | .controlCharacter => "Invalid control character at"
  | .unknownEscape => "Invalid \\escape"
  | .malformedCodeEscape => "Invalid \\uXXXX escape"
  | .extraData => "Extra data"
  | .byteOrderMark => "Unexpected UTF-8 BOM (decode using utf-8-sig)"
  | .oversizedInteger digits =>
    "Exceeds the limit (4300 digits) for integer string conversion: value has " ++
      Number.integerText digits ++ " digits; use sys.set_int_max_str_digits() to increase the limit"

end ReadProblem

namespace ReadFault

/-- The message of a fault of reading `text`: the wording, and for all but an oversized integer
the line and column, counted from one, and the position, counted from zero. -/
def message (text : String) (fault : ReadFault) : String :=
  match fault.problem with
  | .oversizedInteger _ => fault.problem.wording
  | problem =>
    let position := text.toList.length - fault.remaining
    let before := text.toList.take position
    let line := before.count '\n' + 1
    let column := (before.reverse.takeWhile (· ≠ '\n')).length + 1
    problem.wording ++ ": line " ++ Number.integerText line ++ " column " ++
      Number.integerText column ++ " (char " ++ Number.integerText position ++ ")"

end ReadFault

end Keyspace.Json
