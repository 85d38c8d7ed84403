import Keyspace.Fault

/-!
# Timeouts

A timeout is a positive number of seconds for all phases of a request, or a value for each phase
taken as it was given. Numbers are checked, whatever their kind; phases are not.
-/

namespace Keyspace

/-- The timeout of a request. -/
inductive Timeout where
  | seconds (value : Binary64)
  | phases (connect read write pool : Document)
deriving DecidableEq, Repr

/-- A timeout as it is asked for. -/
inductive TimeoutSetting where
  | value (document : Document)
  | phases (connect read write pool : Document)
deriving DecidableEq, Repr

namespace Timeout

/-- The seconds of a timeout where none are asked for. -/
def standardSeconds : Binary64 := Binary64.ofDecimal false 5 0

/-- The timeout where none is asked for. -/
def standard : Timeout := .seconds standardSeconds

/-- The message for a number that is zero or less. -/
def notPositive (number : Number) : String := "Timeout must be positive, got " ++ number.text

/-- Check a timeout that is asked for. -/
def check : TimeoutSetting → Except Failure Timeout
  | .phases connect read write pool => .ok (.phases connect read write pool)
  | .value (.int number) =>
    if number ≤ 0 then
      if Number.isOversized number then .error (.fault .oversizedInteger)
      else .error (.invalidConfiguration (notPositive (.int number)))
    else match Binary64.ofInt? number with
      | some value => .ok (.seconds value)
      | none => .error (.fault .integerTooLarge)
  | .value (.real value) =>
    if value.isNonpositive then .error (.invalidConfiguration (notPositive (.real value)))
    else .ok (.seconds value)
  | .value other =>
    if other.isOversized then .error (.fault .oversizedInteger)
    else .error (.invalidConfiguration ("Invalid timeout: " ++ other.quotedForm))

/-- The timeout of a call: the one asked for, or else the default. -/
def effective (default : Timeout) : Option TimeoutSetting → Except Failure Timeout
  | none => .ok default
  | some setting => check setting

end Timeout

end Keyspace
