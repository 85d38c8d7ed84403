import Keyspace.Number.Binary64
import Keyspace.Text.Blank
import Keyspace.Text.DecimalDigit

/-!
# Reading numerals

Numerals in settings and addresses may stand between blanks, may use the decimal digits of any
script, and may part two digits by an underscore. A real number has an optional sign, digits with
an optional point, and an optional exponent; infinity and not-a-number have names.
-/

namespace Keyspace.Number

-- Powers are those of the core library here, whatever else is imported.
attribute [local instance (high)] instPowNat

/-- Digits of every script as ASCII digits; other characters stay. -/
def plainDigits (text : List Char) : List Char :=
  text.map fun character => match Text.digitValue? character with
    | some value => Char.ofNat (0x30 + value)
    | none => character

/-- Take out underscores, each of which must stand between two digits. -/
def withoutUnderscores? (previous : Char) : List Char → Option (List Char)
  | [] => if previous = '_' then none else some []
  | character :: later =>
    if character = '_' then
      if previous.isDigit then withoutUnderscores? '_' later else none
    else if previous = '_' ∧ !character.isDigit then none
    else (withoutUnderscores? character later).map (character :: ·)

/-- The characters of a numeral: blanks around it removed, plain digits, no underscores. -/
def numeral? (text : String) : Option (List Char) :=
  withoutUnderscores? ' ' (plainDigits (Text.trimBy Text.isNumeralBlank text.toList))

/-- An optional sign: whether it is a minus, and the rest. -/
def takeSign : List Char → Bool × List Char
  | '-' :: rest => (true, rest)
  | '+' :: rest => (false, rest)
  | text => (false, text)

/-- The value of a text of digits. -/
def digitsValue (digits : List Char) : Nat := Nat.ofDigitChars 10 digits 0

/-- Integers of more digits than this are neither read nor written. -/
def digitLimit : Nat := 4300

/-- An integer has more digits than the limit. -/
def isOversized (number : Int) : Bool := 10 ^ digitLimit ≤ number.natAbs

/-- Read a whole text as an integer. -/
def readInteger? (text : String) : Option Int := do
  let (negative, digits) := takeSign (← numeral? text)
  if digits.isEmpty || !digits.all Char.isDigit || digitLimit < digits.length then none
  else some (Binary64.signed negative (digitsValue digits))

/-- An exponent part after its letter: an optional sign and at least one digit. -/
def exponentPart? (text : List Char) : Option Int :=
  let (negative, digits) := takeSign text
  if digits.isEmpty || !digits.all Char.isDigit then none
  else some (Binary64.signed negative (digitsValue digits))

/-- The parts of an unsigned real numeral: its digits without the point, and its power of ten. -/
def decimalParts? (text : List Char) : Option (Nat × Int) :=
  let whole := text.takeWhile Char.isDigit
  let afterWhole := text.dropWhile Char.isDigit
  let (fraction, afterFraction) := match afterWhole with
    | '.' :: rest => (rest.takeWhile Char.isDigit, rest.dropWhile Char.isDigit)
    | _ => ([], afterWhole)
  if whole.isEmpty && fraction.isEmpty then none
  else
    let power? := match afterFraction with
      | [] => some 0
      | letter :: rest => if letter = 'e' ∨ letter = 'E' then exponentPart? rest else none
    power?.map fun power => (digitsValue (whole ++ fraction), power - (fraction.length : Int))

/-- Read a whole text as a real number. -/
def readReal? (text : String) : Option Binary64 := do
  let (negative, magnitude) := takeSign (← numeral? text)
  let name := String.ofList (magnitude.map Char.toLower)
  if name = "inf" || name = "infinity" then some (.infinite negative)
  else if name = "nan" then some .nan
  else (decimalParts? magnitude).map fun (digits, power) => Binary64.ofDecimal negative digits power

end Keyspace.Number
