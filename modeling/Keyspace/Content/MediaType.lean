import Keyspace.Content.Codec
import Keyspace.Text.Blank
import Keyspace.Text.Hexadecimal

/-!
# Charsets of media types

A media type has parameters, of which one may name a charset. A parameter can be written in numbered
sections, and a section can hold escaped octets; its value then begins with the charset of these
octets and a language, each ended by a quote.
-/

namespace Keyspace.Content

/-- A parameter of a media type as it is written. -/
structure Parameter where
  name : List Char
  value : List Char
deriving DecidableEq, Repr

/-- Split a media type at its semicolons, except for those between double quotes; one of these that
stands behind a backslash does not count. -/
def splitParameters (quoted : Bool) (previous : Char) : List Char → List (List Char)
  | [] => [[]]
  | character :: later =>
    if character = ';' && !quoted then [] :: splitParameters quoted character later
    else
      let turns := character = '"' && previous ≠ '\\'
      match splitParameters (quoted ^^ turns) character later with
      | [] => [[character]]
      | part :: parts => (character :: part) :: parts

/-- A text without blanks around it. -/
def trimmed (text : List Char) : List Char := Text.trimBy Text.isBlank text

/-- A parameter in writing: its name, and its value behind an equals sign. -/
def Parameter.ofText (text : List Char) : Parameter :=
  match text.dropWhile (· ≠ '=') with
  | [] => { name := trimmed text, value := [] }
  | _ :: value =>
    { name := (trimmed (text.takeWhile (· ≠ '='))).map Char.toLower, value := trimmed value }

/-- What stands between two marks, if there are both. -/
def between? (opening closing : Char) (text : List Char) : Option (List Char) :=
  match text with
  | first :: rest =>
    if first = opening ∧ rest.getLast? = some closing then some rest.dropLast else none
  | [] => none

/-- A text without the backslashes in front of a character. -/
def withoutBackslashes (escaped : Char) : List Char → List Char
  | '\\' :: next :: rest =>
    if next = escaped then escaped :: withoutBackslashes escaped rest
    else '\\' :: withoutBackslashes escaped (next :: rest)
  | character :: rest => character :: withoutBackslashes escaped rest
  | [] => []

/-- A value without the quotes, or the angle brackets, around it. Between quotes, a backslash may stand
in front of another one or of a quote. -/
def withoutQuotes (value : List Char) : List Char :=
  match between? '"' '"' value with
  | some quoted => withoutBackslashes '"' (withoutBackslashes '\\' quoted)
  | none => (between? '<' '>' value).getD value

/-- A section of a parameter. -/
structure Section where
  /-- The name of the parameter. -/
  owner : List Char
  number : Option Nat
  value : List Char
  isEscaped : Bool
deriving DecidableEq, Repr

namespace Section

/-- The parts of the name of a section: the name of the parameter, and behind an asterisk the digits
of a number, if there is one. -/
def parts? (name : List Char) : Option (List Char × List Char) :=
  let isWord (character : Char) : Bool := character.isAlphanum || character = '_'
  let owner := name.takeWhile isWord
  match owner, name.dropWhile isWord with
  | _ :: _, ['*'] => some (owner, [])
  | _ :: _, '*' :: tail =>
    let digits := tail.takeWhile Char.isDigit
    match digits, tail.dropWhile Char.isDigit with
    | _ :: _, [] | _ :: _, ['*'] => some (owner, digits)
    | _, _ => none
  | _, _ => none

/-- The number in the name of a section. -/
def readNumber (digits : List Char) : Except DecodingFault (Option Nat) :=
  if digits.isEmpty then .ok none
  else if Number.digitLimit < digits.length then
    .error ⟨.value, "Exceeds the limit (4300 digits) for integer string conversion: value has " ++
      Number.integerText digits.length ++
      " digits; use sys.set_int_max_str_digits() to increase the limit"⟩
  else .ok (some (Number.digitsValue digits))

/-- The section that a parameter is, if its name is that of one. -/
def ofParameter? (parameter : Parameter) : Except DecodingFault (Option Section) :=
  match parts? parameter.name with
  | none => .ok none
  | some (owner, digits) => do
    return some {
      owner
      number := ← readNumber digits
      value := withoutQuotes parameter.value
      isEscaped := parameter.name.getLast? = some '*' }

/-- Sections are put into order by their numbers, and then by their values. -/
def le (first second : Section) : Bool :=
  match compare (first.number.getD 0) (second.number.getD 0) with
  | .lt => true
  | .gt => false
  | .eq => match compare first.value second.value with
    | .lt => true
    | .gt => false
    | .eq => !first.isEscaped || second.isEscaped

/-- The fault of two sections next to each other of which only one has a number. -/
def incomparable? : List Section → Option DecodingFault
  | first :: second :: later => match first.number, second.number with
    | none, some _ => some (unordered "int" "NoneType")
    | some _, none => some (unordered "NoneType" "int")
    | _, _ => incomparable? (second :: later)
  | _ => none
where
  /-- The fault of comparing two things of the given kinds. -/
  unordered (left right : String) : DecodingFault :=
    ⟨.type, "'<' not supported between instances of '" ++ left ++ "' and '" ++ right ++ "'"⟩

/-- A text in which escapes stand for the characters with the values of their octets. -/
def unescape : List Char → List Char
  | '%' :: high :: low :: rest => match Text.hexValue? high, Text.hexValue? low with
    | some upper, some lower => Char.ofNat (upper * 16 + lower) :: unescape rest
    | _, _ => '%' :: unescape (high :: low :: rest)
  | character :: rest => character :: unescape rest
  | [] => []

/-- The value of a section, escapes resolved. -/
def plainValue (part : Section) : List Char :=
  if part.isEscaped then unescape part.value else part.value

/-- Sections put together: the charset that the value is written in, if it tells one, and the
value. -/
def join (sections : List Section) : Option (List Char) × List Char :=
  let value := (sections.mergeSort le).flatMap plainValue
  if sections.any isEscaped then
    match Text.fields '\'' value with
    | charset :: _ :: rest@(_ :: _) => (some charset, Text.unfields '\'' rest)
    | _ => (none, value)
  else (none, value)

end Section

/-- The values of the parameter for the charset, each with the charset that it is itself written in.
Of those values the first counts; parameters in sections come last. -/
def charsetValues (mediaType : String) :
    Except DecodingFault (List (Option (List Char) × List Char)) := do
  let isCharset (name : List Char) : Bool := name.map Char.toLower = "charset".toList
  match (splitParameters false ' ' mediaType.toList).map Parameter.ofText with
  | [] => return []
  | first :: later =>
    let sections ← later.filterMapM Section.ofParameter?
    let groups := (sections.map Section.owner).eraseDups.map fun owner =>
      (owner, sections.filter (·.owner = owner))
    match groups.findSome? fun (_, parts) => Section.incomparable? parts with
    | some fault => throw fault
    | none =>
      let whole := first :: later.filter fun parameter => (Section.parts? parameter.name).isNone
      return (whole.filter (isCharset ·.name)).map (fun parameter =>
          (none, withoutQuotes parameter.value)) ++
        (groups.filter (isCharset ·.1)).map (Section.join ·.2)

/-- A name with a null character is not even looked up. -/
def checkName (name : List Char) : Except DecodingFault Unit :=
  if name.contains (Char.ofNat 0) then .error ⟨.value, "embedded null character"⟩ else .ok ()

/-- The name of the charset in a media type. What a codec that is not written out here makes of the
name is `elsewhere`; a name that is not ASCII is none. -/
def charsetName (mediaType : String) (elsewhere : Option String) :
    Except DecodingFault (Option (List Char)) := do
  match ← charsetValues mediaType with
  | [] => return none
  | (written, value) :: _ =>
    let name ← match written with
      | none => pure value
      | some charset => do
        checkName charset
        match Codec.ofName? charset with
        | some .foreign => pure ((elsewhere.map String.toList).getD value)
        | _ => pure value
    return if name.all (·.toNat < 0x80) then some name else none

end Keyspace.Content
