import Keyspace.Number.Binary64

/-!
# The shortest decimal of a binary value

A finite value stands for all reals that round to it. Among the decimals in that interval the text
of the value is one with the fewest digits, and of those the one nearest to the value. The layout
is positional while the leading digit stands between 10⁻⁴ and 10¹⁵, and otherwise has a signed
exponent of at least two digits; a positional text always shows a digit after the point.
-/

namespace Keyspace

-- Powers are those of the core library here, whatever else is imported.
attribute [local instance (high)] instPowNat

/-- The decimal `digits · 10 ^ exponent`. -/
structure Decimal where
  digits : Nat
  exponent : Int
deriving DecidableEq, Repr

namespace Binary64

/-- Compare `digits · 10 ^ power` with `significand · 2 ^ exponent`, exactly. -/
def compareScaled (digits : Nat) (power : Int) (significand : Nat) (exponent : Int) : Ordering :=
  compare (digits * 10 ^ power.toNat * 2 ^ (-exponent).toNat)
    (significand * 2 ^ exponent.toNat * 10 ^ (-power).toNat)

/-- The decimal lies among the reals that round to `significand · 2 ^ exponent`: between the
halfway points to the two neighbours, ends included exactly for an even significand. Below the
least significand of an exponent the neighbour is only half as far. -/
def readsBack (significand : Nat) (exponent : Int) (decimal : Decimal) : Bool :=
  let narrow := significand = 2 ^ (precision - 1) ∧ leastExponent < exponent
  let low := if narrow then 4 * significand - 1 else 4 * significand - 2
  let high := 4 * significand + 2
  let ends := significand % 2 = 0
  let below := compareScaled decimal.digits decimal.exponent low (exponent - 2)
  let above := compareScaled decimal.digits decimal.exponent high (exponent - 2)
  (below = .gt || (ends && below = .eq)) && (above = .lt || (ends && above = .eq))

/-- The least power of ten above a positive value, found among five neighbours of an estimate. -/
def decimalScale (significand : Nat) (exponent : Int) : Int :=
  let estimate := ((Nat.log2 significand : Int) + exponent) * 30103 / 100000 - 1
  let isAbove (power : Int) : Bool := compareScaled 1 power significand exponent = .gt
  (([0, 1, 2, 3, 4].map fun step => estimate + step).find? isAbove).getD (estimate + 4)

/-- The neighbour of a value on the grid of one power of ten that reads back to the value, the
nearer one if both do, the even one if both are equally near. -/
def onGrid? (significand : Nat) (exponent power : Int) : Option Decimal :=
  let value := significand * 2 ^ exponent.toNat * 10 ^ (-power).toNat
  let grid := 10 ^ power.toNat * 2 ^ (-exponent).toNat
  let lower := value / grid
  let nearest := roundQuotient value grid
  let farther := if nearest = lower then lower + 1 else lower
  if readsBack significand exponent ⟨nearest, power⟩ then some ⟨nearest, power⟩
  else if readsBack significand exponent ⟨farther, power⟩ then some ⟨farther, power⟩
  else none

/-- Move factors of ten from the digits into the exponent. -/
def stripZeros : Nat → Decimal → Decimal
  | 0, decimal => decimal
  | fuel + 1, decimal =>
    if decimal.digits ≠ 0 ∧ decimal.digits % 10 = 0 then
      stripZeros fuel ⟨decimal.digits / 10, decimal.exponent + 1⟩
    else decimal

/-- The exact decimal of a value. -/
def exactDecimal (significand : Nat) (exponent : Int) : Decimal :=
  ⟨significand * 2 ^ exponent.toNat * 5 ^ (-exponent).toNat, min exponent 0⟩

/-- The shortest decimal that reads back to a positive value; grids of one to seventeen digits are
tried in turn. -/
def shortest (significand : Nat) (exponent : Int) : Decimal :=
  let scale := decimalScale significand exponent
  let found := (List.range 17).findSome? fun index =>
    onGrid? significand exponent (scale - (index + 1 : Nat))
  stripZeros 20 (found.getD (exactDecimal significand exponent))

/-- The exponent part of a decimal text, with a sign and at least two digits. -/
def exponentText (exponent : Int) : List Char :=
  let digits := Nat.toDigits 10 exponent.natAbs
  'e' :: (if exponent < 0 then '-' else '+') ::
    (List.replicate (2 - digits.length) '0' ++ digits)

/-- The layout of a decimal. -/
def layout (decimal : Decimal) : List Char :=
  let digits := Nat.toDigits 10 decimal.digits
  let leading : Int := decimal.exponent + digits.length - 1
  if leading < -4 ∨ 16 ≤ leading then
    let mantissa := match digits with
      | first :: second :: later => first :: '.' :: second :: later
      | short => short
    mantissa ++ exponentText leading
  else if 0 ≤ decimal.exponent then
    digits ++ List.replicate decimal.exponent.toNat '0' ++ ['.', '0']
  else if 0 ≤ leading then
    let whole := (leading + 1).toNat
    digits.take whole ++ '.' :: digits.drop whole
  else
    '0' :: '.' :: (List.replicate (-leading - 1).toNat '0' ++ digits)

/-- The text of a value: the shortest decimal that reads back to it. -/
def text : Binary64 → String
  | .finite negative significand exponent =>
    let magnitude := if significand = 0 then ['0', '.', '0'] else layout (shortest significand exponent)
    String.ofList (if negative then '-' :: magnitude else magnitude)
  | .infinite negative => if negative then "-inf" else "inf"
  | .nan => "nan"

end Binary64

namespace Number

/-- The text of an integer in decimal digits. -/
def integerText (number : Int) : String :=
  let digits := Nat.toDigits 10 number.natAbs
  String.ofList (if number < 0 then '-' :: digits else digits)

/-- The text of a number. -/
def text : Number → String
  | .int value => integerText value
  | .real value => value.text

end Number

end Keyspace
