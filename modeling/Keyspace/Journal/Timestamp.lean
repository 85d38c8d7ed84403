import Keyspace.Document.Basic
import Keyspace.Fault

/-!
# Timestamps

A time is a number of seconds since the beginning of 1970. It is rounded to microseconds, ties to
the even one, cut to milliseconds, and written as a date and a time of day in the Gregorian
calendar. Only the years from 1 to 9999 can be written.
-/

namespace Keyspace.Journal.Timestamp

-- Powers are those of the core library here, whatever else is imported.
attribute [local instance (high)] instPowNat

/-- How many microseconds there are in a second. -/
def microsPerSecond : Nat := 1000000

/-- How many seconds there are in a day. -/
def secondsPerDay : Int := 86400

/-- The nearest integer to a value of no sign, ties to the even one. -/
def nearest : Binary64 → Nat
  | .finite _ significand exponent =>
    Binary64.roundQuotient (significand * 2 ^ exponent.toNat) (2 ^ (-exponent).toNat)
  | _ => 0

/-- The microseconds of a finite number of seconds: the fraction is brought to microseconds as a
binary64 value and then rounded. -/
def finiteMicros (negative : Bool) (significand : Nat) (exponent : Int) : Int :=
  let scaled := significand * 2 ^ exponent.toNat
  let unit := 2 ^ (-exponent).toNat
  let fraction := Binary64.ofQuotient false (scaled % unit * microsPerSecond) unit
  Binary64.signed negative (scaled / unit * microsPerSecond + nearest fraction)

/-- The microseconds of a number of seconds. -/
def micros : Document → Except Fault Int
  | .int value => .ok (value * microsPerSecond)
  | .bool value => .ok (if value then microsPerSecond else 0)
  | .real (.finite negative significand exponent) =>
    .ok (finiteMicros negative significand exponent)
  | .real (.infinite _) => .error ⟨.overflow, "cannot convert float infinity to integer"⟩
  | .real .nan => .error ⟨.value, "Invalid value NaN (not a number)"⟩
  | other => .error
    ⟨.type, "'" ++ other.kindName ++ "' object cannot be interpreted as an integer"⟩

/-- A day of the Gregorian calendar. -/
structure Day where
  year : Int
  month : Int
  day : Int
deriving DecidableEq, Repr

/-- The day that comes a number of days after the first of January 1970. Years are counted from
March, in cycles of 400 years or 146097 days, so that a leap day ends its year. -/
def Day.ofNumber (number : Int) : Day :=
  let shifted := number + 719468
  let cycle := shifted / 146097
  let dayOfCycle := shifted % 146097
  let yearOfCycle :=
    (dayOfCycle - dayOfCycle / 1460 + dayOfCycle / 36524 - dayOfCycle / 146096) / 365
  let dayOfYear := dayOfCycle - (365 * yearOfCycle + yearOfCycle / 4 - yearOfCycle / 100)
  let monthOfYear := (5 * dayOfYear + 2) / 153
  let month := if monthOfYear < 10 then monthOfYear + 3 else monthOfYear - 9
  { year := yearOfCycle + cycle * 400 + (if month ≤ 2 then 1 else 0)
    month
    day := dayOfYear - (153 * monthOfYear + 2) / 5 + 1 }

/-- A natural number with zeros in front up to a width. -/
def padded (width : Nat) (number : Int) : String :=
  let digits := Nat.toDigits 10 number.toNat
  String.ofList (List.replicate (width - digits.length) '0' ++ digits)

/-- A number of microseconds as a timestamp. -/
def ofMicros (micros : Int) : Except Fault String :=
  let seconds := micros / microsPerSecond
  let millis := micros % microsPerSecond / 1000
  let date := Day.ofNumber (seconds / secondsPerDay)
  let rest := seconds % secondsPerDay
  if 1 ≤ date.year ∧ date.year ≤ 9999 then
    .ok (padded 4 date.year ++ "-" ++ padded 2 date.month ++ "-" ++ padded 2 date.day ++ "T" ++
      padded 2 (rest / 3600) ++ ":" ++ padded 2 (rest / 60 % 60) ++ ":" ++ padded 2 (rest % 60) ++
      "." ++ padded 3 millis ++ "Z")
  else .error ⟨.value, "year " ++ Number.integerText date.year ++ " is out of range"⟩

/-- The timestamp of a number of seconds. -/
def write (seconds : Document) : Except Fault String := do
  ofMicros (← micros seconds)

end Keyspace.Journal.Timestamp
