import Keyspace.Number.Shortest

/-!
# Decimals with a given number of places

A value can be written with a given number of places after the point, or with a given number of
significant digits. Both round the exact value to the nearest decimal, ties to the even digit.
-/

namespace Keyspace.Binary64

-- Powers are those of the core library here, whatever else is imported.
attribute [local instance (high)] instPowNat

/-- How many times `10 ^ power` goes into a value, rounded. -/
def countOf (significand : Nat) (exponent power : Int) : Nat :=
  roundQuotient (significand * 2 ^ exponent.toNat * 10 ^ (-power).toNat)
    (10 ^ power.toNat * 2 ^ (-exponent).toNat)

/-- A point and what follows it; the point is left out when nothing follows, unless it is kept. -/
def afterPoint (keepPoint : Bool) (digits : List Char) : List Char :=
  if digits.isEmpty && !keepPoint then [] else '.' :: digits

/-- Digits without the zeros at their end. -/
def withoutLastZeros (digits : List Char) : List Char :=
  (digits.reverse.dropWhile (· = '0')).reverse

/-- A value with a number of places after the point. -/
def fixedForm (keepPoint : Bool) (places significand : Nat) (exponent : Int) : List Char :=
  let digits := Nat.toDigits 10 (countOf significand exponent (-places))
  let padded := List.replicate (places + 1 - digits.length) '0' ++ digits
  padded.take (padded.length - places) ++
    afterPoint keepPoint (padded.drop (padded.length - places))

/-- A number of significant digits of a value, and the power of ten of the first one. -/
def significantDigits (count significand : Nat) (exponent : Int) : List Char × Int :=
  if significand = 0 then (List.replicate count '0', 0)
  else
    let leading := decimalScale significand exponent - 1
    let digits := countOf significand exponent (leading - count + 1)
    if 10 ^ count ≤ digits then (Nat.toDigits 10 (10 ^ (count - 1)), leading + 1)
    else (Nat.toDigits 10 digits, leading)

/-- Digits with a point after the first one, and an exponent. -/
def exponentForm (keepPoint : Bool) (digits : List Char) (leading : Int) : List Char :=
  digits.take 1 ++ afterPoint keepPoint (digits.drop 1) ++ exponentText leading

/-- A value with an exponent and a number of places after the point. -/
def scientificForm (keepPoint : Bool) (places significand : Nat) (exponent : Int) : List Char :=
  let (digits, leading) := significantDigits (places + 1) significand exponent
  exponentForm keepPoint digits leading

/-- A value with a number of significant digits, with an exponent where the first digit stands
below `10 ^ (-4)` or beyond the digits; zeros at the end of the fraction are left out, unless the
point is kept. -/
def generalForm (keepPoint : Bool) (count significand : Nat) (exponent : Int) : List Char :=
  let count := max count 1
  let (digits, leading) := significantDigits count significand exponent
  let shorten (fraction : List Char) : List Char :=
    if keepPoint then fraction else withoutLastZeros fraction
  if leading < -4 ∨ (count : Int) ≤ leading then
    exponentForm keepPoint (digits.take 1 ++ shorten (digits.drop 1)) leading
  else if 0 ≤ leading then
    let whole := (leading + 1).toNat
    digits.take whole ++ afterPoint keepPoint (shorten (digits.drop whole))
  else
    '0' :: afterPoint keepPoint
      (shorten (List.replicate (-leading - 1).toNat '0' ++ digits))

/-- A value written by a form for finite magnitudes. -/
def withForm (form : Nat → Int → List Char) : Binary64 → List Char
  | .finite negative significand exponent =>
    if negative then '-' :: form significand exponent else form significand exponent
  | .infinite true => ['-', 'i', 'n', 'f']
  | .infinite false => ['i', 'n', 'f']
  | .nan => ['n', 'a', 'n']

end Keyspace.Binary64
