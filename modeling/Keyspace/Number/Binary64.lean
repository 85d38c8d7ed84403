/-!
# Binary floating-point numbers

A number with a fraction is a binary64 value: a sign, a significand below 2⁵³ and a power of two,
or one of the infinities, or no number at all. Values come from exact quotients by rounding to the
nearest representable one, ties to the even significand, so that everything about them is integer
arithmetic.
-/

namespace Keyspace

-- Powers are those of the core library here, whatever else is imported.
attribute [local instance (high)] instPowNat

/-- A binary64 value; a finite one is `±significand · 2 ^ exponent`. -/
inductive Binary64 where
  | finite (negative : Bool) (significand : Nat) (exponent : Int)
  | infinite (negative : Bool)
  | nan
deriving DecidableEq, Repr, Inhabited

namespace Binary64

/-- The least exponent of two, that of the subnormal values. -/
def leastExponent : Int := -1074

/-- The greatest exponent of two of a finite value. -/
def greatestExponent : Int := 971

/-- The quotient of two naturals rounded to the nearest one, ties to the even one. -/
def roundQuotient (numerator denominator : Nat) : Nat :=
  let quotient := numerator / denominator
  let rest := 2 * (numerator % denominator)
  if rest < denominator then quotient
  else if denominator < rest then quotient + 1
  else if quotient % 2 = 0 then quotient else quotient + 1

/-- The whole part of `numerator / denominator / 2 ^ exponent`. -/
def scaledQuotient (numerator denominator : Nat) (exponent : Int) : Nat :=
  (numerator * 2 ^ (-exponent).toNat) / (denominator * 2 ^ exponent.toNat)

/-- How many bits a significand has. -/
def precision : Nat := 53

/-- The exponent at which a positive quotient has a significand of all bits, or the least one. -/
def exponentOf (numerator denominator : Nat) : Int :=
  let estimate : Int := (Nat.log2 numerator : Int) - Nat.log2 denominator - precision
  let fitting :=
    if scaledQuotient numerator denominator estimate < 2 ^ precision then estimate else estimate + 1
  max fitting leastExponent

/-- The value nearest to the exact quotient of two naturals. -/
def ofQuotient (negative : Bool) (numerator denominator : Nat) : Binary64 :=
  if numerator = 0 then .finite negative 0 leastExponent
  else
    let exponent := exponentOf numerator denominator
    let rounded := roundQuotient (numerator * 2 ^ (-exponent).toNat)
      (denominator * 2 ^ exponent.toNat)
    let (significand, exponent) :=
      if rounded = 2 ^ precision then (2 ^ (precision - 1), exponent + 1) else (rounded, exponent)
    if greatestExponent < exponent then .infinite negative
    else .finite negative significand exponent

/-- Decimals whose leading digit stands beyond this power of ten, on either side, are out of the
range of every finite nonzero value. -/
def decimalRange : Int := 400

/-- The value nearest to `digits · 10 ^ exponent`. -/
def ofDecimal (negative : Bool) (digits : Nat) (exponent : Int) : Binary64 :=
  let magnitude : Int := exponent + (Nat.toDigits 10 digits).length
  if digits = 0 ∨ magnitude < -decimalRange then .finite negative 0 leastExponent
  else if decimalRange < magnitude then .infinite negative
  else ofQuotient negative (digits * 10 ^ exponent.toNat) (10 ^ (-exponent).toNat)

/-- The value nearest to an integer, if the integer is within range. -/
def ofInt? (number : Int) : Option Binary64 :=
  match ofQuotient (number < 0) number.natAbs 1 with
  | .infinite _ => none
  | value => some value

/-- Positive zero. -/
def zero : Binary64 := .finite false 0 leastExponent

/-- The value is less than or equal to zero. -/
def isNonpositive : Binary64 → Bool
  | .finite negative significand _ => negative || significand = 0
  | .infinite negative => negative
  | .nan => false

/-- The value is greater than zero. -/
def isPositive : Binary64 → Bool
  | .finite negative significand _ => !negative && significand ≠ 0
  | .infinite negative => !negative
  | .nan => false

/-- The value is zero, of either sign. -/
def isZero : Binary64 → Bool
  | .finite _ significand _ => significand = 0
  | _ => false

/-- The signed significand of a finite value. -/
def signed (negative : Bool) (significand : Nat) : Int :=
  if negative then -(significand : Int) else significand

/-- The whole part of a finite value, toward zero. -/
def truncate (negative : Bool) (significand : Nat) (exponent : Int) : Int :=
  signed negative (significand * 2 ^ exponent.toNat / 2 ^ (-exponent).toNat)

/-- The finite value `significand · 2 ^ exponent` is at most `other · 2 ^ otherExponent`. -/
def scaledLe (significand : Int) (exponent : Int) (other : Int) (otherExponent : Int) : Bool :=
  significand * 2 ^ (exponent - otherExponent).toNat ≤
    other * 2 ^ (otherExponent - exponent).toNat

/-- The order of values; no number is comparable with nothing. -/
def le : Binary64 → Binary64 → Bool
  | .nan, _ => false
  | _, .nan => false
  | .infinite negative, .infinite other => negative || !other
  | .infinite negative, .finite .. => negative
  | .finite .., .infinite other => !other
  | .finite negative significand exponent, .finite other otherSignificand otherExponent =>
    scaledLe (signed negative significand) exponent (signed other otherSignificand) otherExponent

end Binary64

/-- A number of a document: an integer of any size, or a binary64 value. -/
inductive Number where
  | int (value : Int)
  | real (value : Binary64)
deriving DecidableEq, Repr, Inhabited

namespace Number

/-- The exact order of numbers of both kinds. -/
def le : Number → Number → Bool
  | .int value, .int other => value ≤ other
  | .real value, .real other => value.le other
  | .int _, .real .nan => false
  | .int _, .real (.infinite negative) => !negative
  | .int value, .real (.finite negative significand exponent) =>
    Binary64.scaledLe value 0 (Binary64.signed negative significand) exponent
  | .real .nan, .int _ => false
  | .real (.infinite negative), .int _ => negative
  | .real (.finite negative significand exponent), .int other =>
    Binary64.scaledLe (Binary64.signed negative significand) exponent other 0

/-- Numbers of the same value, whatever their kind. -/
def same (number other : Number) : Bool := number.le other && other.le number

end Number

end Keyspace
