import Keyspace.Fault
import Keyspace.Number.Places

/-!
# Message templates

A message may hold directives, each a percent sign, an optional name in parentheses, flags, a
width, a precision and a letter. A directive takes the next argument, or the one of its name from
a mapping, and writes it as its letter says. A template whose arguments do not fit is refused.
-/

namespace Keyspace.Journal

-- Powers are those of the core library here, whatever else is imported.
attribute [local instance (high)] instPowNat

/-- What a template is filled with: a row of arguments, or one argument that may be a mapping. -/
inductive Arguments where
  | row (items : List Document)
  | single (document : Document)
deriving DecidableEq

namespace Arguments

/-- The arguments of a call: a mapping that stands alone gives its members by name. -/
def ofList : List Document → Arguments
  | [.object (member :: members)] => .single (.object (member :: members))
  | items => .row items

/-- There is nothing to fill a template with. -/
def isEmpty : Arguments → Bool
  | .row items => items.isEmpty
  | .single document => !document.isTruthy

end Arguments

namespace Template

/-- The arguments that are left, and the mapping that names are looked up in. -/
structure Supply where
  remaining : List Document
  mapping : Option Document
deriving DecidableEq

/-- The supply of arguments at the start. -/
def Supply.ofArguments : Arguments → Supply
  | .row items => ⟨items, none⟩
  | .single document =>
    ⟨[document], match document with
      | .object _ | .array _ => some document
      | _ => none⟩

/-- A type fault. -/
def typeFault (message : String) : Fault := ⟨.type, message⟩

/-- A value fault. -/
def valueFault (message : String) : Fault := ⟨.value, message⟩

/-- The fault of arguments that are left over. -/
def unused : Fault := typeFault "not all arguments converted during string formatting"

/-- The fault of a directive that ends too early. -/
def incomplete : Fault := valueFault "incomplete format"

/-- Take the next argument. -/
def Supply.next (supply : Supply) : Except Fault (Document × Supply) :=
  match supply.remaining with
  | [] => .error (typeFault "not enough arguments for format string")
  | argument :: later => .ok (argument, { supply with remaining := later })

/-- Go on with the argument of a name. -/
def Supply.select (supply : Supply) (name : String) : Except Fault Supply :=
  match supply.mapping with
  | none => .error (typeFault "format requires a mapping")
  | some (.object members) =>
    match Pairs.find? name members with
    | some argument => .ok { supply with remaining := [argument] }
    | none => .error (.missingKey (.text name))
  | some _ => .error (typeFault "list indices must be integers or slices, not str")

/-- The name up to the parenthesis that closes it, and the rest; inner parentheses are balanced. -/
def takeName (depth : Nat) : List Char → Except Fault (List Char × List Char)
  | [] => .error (valueFault "incomplete format key")
  | character :: later =>
    if character = ')' ∧ depth = 0 then .ok ([], later)
    else
      let depth := if character = '(' then depth + 1
        else if character = ')' then depth - 1 else depth
      (takeName depth later).map fun (name, rest) => (character :: name, rest)

/-- The parts of a directive in front of its letter. -/
structure Layout where
  leftAligned : Bool
  signed : Bool
  blank : Bool
  alternate : Bool
  zeros : Bool
  width : Option Nat
  precision : Option Nat
deriving DecidableEq, Repr

/-- A flag of a directive. -/
def isFlag (character : Char) : Bool :=
  character = '-' || character = '+' || character = ' ' || character = '#' || character = '0'

/-- An integer argument that stands for a width or precision. -/
def starValue : Document → Except Fault Int
  | .int value => .ok value
  | .bool value => .ok (if value then 1 else 0)
  | _ => .error (typeFault "* wants int")

/-- A size of a directive: its bound, a power of two, and what is said of sizes beyond it. -/
structure SizeKind where
  bound : Nat
  tooBig : String
  overflow : String

/-- Widths. -/
def widthKind : SizeKind :=
  ⟨2 ^ (63 : Nat), "width too big", "Python int too large to convert to C ssize_t"⟩

/-- Precisions. -/
def precisionKind : SizeKind :=
  ⟨2 ^ (31 : Nat), "precision too big", "Python int too large to convert to C int"⟩

/-- A size that is written out. -/
def SizeKind.written (kind : SizeKind) (digits : List Char) : Except Fault Int :=
  let size := Nat.ofDigitChars 10 digits 0
  if size < kind.bound then .ok size else .error (valueFault kind.tooBig)

/-- A size that is an argument. -/
def SizeKind.given (kind : SizeKind) (argument : Document) : Except Fault Int := do
  let size ← starValue argument
  if -(kind.bound : Int) ≤ size ∧ size < kind.bound then return size
  else .error ⟨.overflow, kind.overflow⟩

/-- A size that is written out or taken from the arguments, the rest, and the supply after it. -/
def takeSize (kind : SizeKind) (supply : Supply) (text : List Char) :
    Except Fault (Option Int × List Char × Supply) :=
  match text with
  | '*' :: rest => do
    let (argument, supply) ← supply.next
    return (some (← kind.given argument), rest, supply)
  | _ => do
    let digits := text.takeWhile Char.isDigit
    if digits.isEmpty then return (none, text, supply)
    else return (some (← kind.written digits), text.dropWhile Char.isDigit, supply)

/-- The precision behind a point; without digits it is zero. -/
def takePrecision (supply : Supply) (text : List Char) :
    Except Fault (Option Nat × List Char × Supply) :=
  match text with
  | '.' :: rest => do
    let (size, rest, supply) ← takeSize precisionKind supply rest
    return (some ((size.getD 0).toNat), rest, supply)
  | _ => .ok (none, text, supply)

/-- Drop one letter that tells the size of an argument. -/
def dropSizeLetter : List Char → List Char
  | 'h' :: rest | 'l' :: rest | 'L' :: rest => rest
  | text => text

/-- Read the parts of a directive up to its letter. -/
def takeLayout (supply : Supply) (text : List Char) :
    Except Fault (Layout × List Char × Supply) := do
  let flags := text.takeWhile isFlag
  let (width, rest, supply) ← takeSize widthKind supply (text.dropWhile isFlag)
  let (precision, rest, supply) ← takePrecision supply rest
  return ({
    leftAligned := flags.contains '-' || width.any (· < 0)
    signed := flags.contains '+'
    blank := flags.contains ' '
    alternate := flags.contains '#'
    zeros := flags.contains '0'
    width := width.map Int.natAbs
    precision }, dropSizeLetter rest, supply)

/-- What a directive writes, before it is aligned: an optional sign, a mark of the number's base,
and the body. -/
structure Piece where
  sign : Option Char := none
  mark : List Char := []
  body : List Char
  numeric : Bool := false
deriving DecidableEq, Repr

/-- Part a number from its minus sign. -/
def numericPiece : List Char → Piece
  | '-' :: body => { sign := some '-', body, numeric := true }
  | body => { body, numeric := true }

/-- The integer that an argument stands for, by its whole part. -/
def wholeNumber (letter : Char) : Document → Except Fault Int
  | .int value => .ok value
  | .bool value => .ok (if value then 1 else 0)
  | .real (.finite negative significand exponent) =>
    .ok (Binary64.truncate negative significand exponent)
  | .real (.infinite _) => .error ⟨.overflow, "cannot convert float infinity to integer"⟩
  | .real .nan => .error (valueFault "cannot convert float NaN to integer")
  | other => .error (typeFault ("%" ++ String.ofList [letter] ++
      " format: a real number is required, not " ++ other.kindName))

/-- The integer that an argument is. -/
def exactInteger (letter : Char) : Document → Except Fault Int
  | .int value => .ok value
  | .bool value => .ok (if value then 1 else 0)
  | other => .error (typeFault ("%" ++ String.ofList [letter] ++
      " format: an integer is required, not " ++ other.kindName))

/-- Digits with zeros in front up to a precision. -/
def padDigits (precision : Option Nat) (digits : List Char) : List Char :=
  List.replicate (precision.getD 0 - digits.length) '0' ++ digits

/-- An integer with the digits of its magnitude. -/
def integerPiece (layout : Layout) (value : Int) (mark digits : List Char) : Piece where
  sign := if value < 0 then some '-' else none
  mark := if layout.alternate then mark else []
  body := padDigits layout.precision digits
  numeric := true

/-- An integer in decimal digits. -/
def decimalPiece (layout : Layout) (letter : Char) (argument : Document) : Except Fault Piece := do
  let value ← wholeNumber letter argument
  if Number.isOversized value then .error .oversizedInteger
  else return integerPiece layout value [] (Nat.toDigits 10 value.natAbs)

/-- An integer in another base. -/
def basePiece (layout : Layout) (letter : Char) (argument : Document) : Except Fault Piece := do
  let value ← exactInteger letter argument
  let digits := Nat.toDigits (if letter = 'o' then 8 else 16) value.natAbs
  return integerPiece layout value ['0', letter]
    (if letter = 'X' then digits.map Char.toUpper else digits)

/-- The binary64 value that an argument stands for. -/
def realNumber : Document → Except Fault Binary64
  | .real value => .ok value
  | .int value => ofInteger value
  | .bool value => ofInteger (if value then 1 else 0)
  | other => .error (typeFault ("must be real number, not " ++ other.kindName))
where
  /-- The binary64 value nearest to an integer. -/
  ofInteger (value : Int) : Except Fault Binary64 :=
    match Binary64.ofInt? value with
    | some value => .ok value
    | none => .error .integerTooLarge

/-- A real number in one of the three forms. -/
def realPiece (layout : Layout) (letter : Char) (argument : Document) : Except Fault Piece := do
  let value ← realNumber argument
  let precision := layout.precision.getD 6
  let form := match letter.toLower with
    | 'e' => Binary64.scientificForm layout.alternate precision
    | 'f' => Binary64.fixedForm layout.alternate precision
    | _ => Binary64.generalForm layout.alternate precision
  let text := value.withForm form
  return numericPiece (if letter.isUpper then text.map Char.toUpper else text)

/-- A single character, given as a text or by its code point. -/
def characterPiece (argument : Document) : Except Fault Piece :=
  match argument with
  | .text text => match text.toList with
    | [character] => .ok { body := [character] }
    | _ => .error (typeFault "%c requires int or char")
  | .int code => ofCode code
  | .bool value => ofCode (if value then 1 else 0)
  | _ => .error (typeFault "%c requires int or char")
where
  /-- The character of a code point. -/
  ofCode (code : Int) : Except Fault Piece :=
    if code < 0 ∨ 0x110000 ≤ code then .error ⟨.overflow, "%c arg not in range(0x110000)"⟩
    else .ok { body := [Char.ofNat code.toNat] }

/-- A text cut to a precision. -/
def textPiece (layout : Layout) (text : String) : Piece where
  body := match layout.precision with
    | some precision => text.toList.take precision
    | none => text.toList

/-- An argument shown by a function, unless it holds an integer of too many digits. -/
def shownPiece (layout : Layout) (show? : Document → String) (argument : Document) :
    Except Fault Piece :=
  if argument.isOversized then .error .oversizedInteger
  else .ok (textPiece layout (show? argument))

/-- The fault of a letter that means nothing; it is named by its code and its place. -/
def unsupported (letter : Char) (place : Nat) : Fault :=
  let shown := if 0x1F ≤ letter.toNat ∧ letter.toNat < 0x7F then letter else '?'
  valueFault ("unsupported format character '" ++ String.ofList [shown] ++ "' (0x" ++
    String.ofList (Nat.toDigits 16 letter.toNat) ++ ") at index " ++ Number.integerText place)

/-- Write an argument as a letter says. -/
def convert (layout : Layout) (letter : Char) (place : Nat) (argument : Document) :
    Except Fault Piece :=
  if letter = 's' then shownPiece layout Document.shown argument
  else if letter = 'r' then shownPiece layout Document.quotedForm argument
  else if letter = 'a' then shownPiece layout Document.quotedAsciiForm argument
  else if letter = 'd' ∨ letter = 'i' ∨ letter = 'u' then decimalPiece layout letter argument
  else if letter = 'o' ∨ letter = 'x' ∨ letter = 'X' then basePiece layout letter argument
  else if letter.toLower = 'e' ∨ letter.toLower = 'f' ∨ letter.toLower = 'g' then
    realPiece layout letter argument
  else if letter = 'c' then characterPiece argument
  else .error (unsupported letter place)

/-- The sign that a piece is written with. -/
def signOf (layout : Layout) (piece : Piece) : List Char :=
  match piece.sign with
  | some sign => [sign]
  | none =>
    if !piece.numeric then []
    else if layout.signed then ['+'] else if layout.blank then [' '] else []

/-- Bring a piece to the width of its directive: with zeros between sign and number, or with
blanks in front or behind. -/
def align (layout : Layout) (piece : Piece) : List Char :=
  let sign := signOf layout piece
  let missing :=
    layout.width.getD 0 - (sign.length + piece.mark.length + piece.body.length)
  if layout.leftAligned then sign ++ piece.mark ++ piece.body ++ List.replicate missing ' '
  else if layout.zeros && piece.numeric then
    sign ++ piece.mark ++ List.replicate missing '0' ++ piece.body
  else List.replicate missing ' ' ++ sign ++ piece.mark ++ piece.body

/-- Read one directive behind its percent sign and write what it stands for. -/
def directive (total : Nat) (supply : Supply) (text : List Char) :
    Except Fault (List Char × List Char × Supply) := do
  let (text, supply) ← match text with
    | '(' :: rest =>
      if supply.mapping.isNone then .error (typeFault "format requires a mapping")
      else do
        let (name, rest) ← takeName 0 rest
        pure (rest, ← supply.select (String.ofList name))
    | _ => .ok (text, supply)
  let (layout, rest, supply) ← takeLayout supply text
  match rest with
  | [] => .error incomplete
  | letter :: rest =>
    let (argument, supply) ← supply.next
    let piece ← convert layout letter (total - rest.length - 1) argument
    return (align layout piece, rest, supply)

/-- Fill a template from a place on; each step takes a directive or a run of plain
text, and two percent signs stand for one. -/
def fillFrom (total : Nat) : Nat → Supply → List Char → Except Fault (List Char)
  | 0, _, _ => .ok []
  | fuel + 1, supply, text =>
    match text with
    | [] =>
      if supply.mapping.isNone && !supply.remaining.isEmpty then .error unused else .ok []
    | '%' :: '%' :: rest => (fillFrom total fuel supply rest).map ('%' :: ·)
    | '%' :: rest => do
      let (written, rest, supply) ← directive total supply rest
      if supply.mapping.isSome && !supply.remaining.isEmpty then .error unused
      else return written ++ (← fillFrom total fuel supply rest)
    | _ => do
      let later ← fillFrom total fuel supply (text.dropWhile (· ≠ '%'))
      return text.takeWhile (· ≠ '%') ++ later

/-- Fill a template with arguments. -/
def fill (template : String) (arguments : Arguments) : Except Fault String :=
  let text := template.toList
  (fillFrom text.length (text.length + 1) (.ofArguments arguments) text).map String.ofList

end Template

end Keyspace.Journal
