import Keyspace.Companion
import Keyspace.Entries
import Keyspace.Fault

/-!
# Outcomes

An outcome is what one exchange came to: the status of the answer, if there was one, the entries
read from it, and the error that was captured. Its flat map shows where the values come from and
either the error or the entries, never both.
-/

namespace Keyspace

/-- The statuses of success. -/
def successStatuses : List Int := [200, 201]

/-- The outcome of one exchange about a key. -/
structure Outcome (α : Type) where
  key : String
  source : String
  status : Option Int := none
  entries : Entries α := Entries.empty
  error : Option AccessError := none

namespace Outcome

variable {α : Type}

/-- Take all entries back. -/
def cleared (outcome : Outcome α) : Outcome α := { outcome with entries := Entries.empty }

/-- A status was given and is one of success. -/
def isSuccess (status : Option Int) : Bool :=
  status.any fun code => successStatuses.contains code

/-- The exchange succeeded and its answer was understood. -/
def ok (outcome : Outcome α) : Bool := outcome.error.isNone && isSuccess outcome.status

/-- The value at the key that was asked for. -/
def value (outcome : Outcome α) : Option α := outcome.entries.find? outcome.key

/-- The key under which a flat map tells its source. -/
def sourceKey (outcome : Outcome α) : String := Companion.key outcome.key Companion.sourceName

/-- The key under which a flat map tells its error. -/
def errorKey (outcome : Outcome α) : String := Companion.key outcome.key Companion.errorName

/-- The flat map of an outcome; `mark` makes entries of the texts that it adds. -/
def toMapBy (mark : String → α) (outcome : Outcome α) : Entries α :=
  let marked := Entries.empty.insert outcome.sourceKey (mark outcome.source)
  match outcome.error with
  | some error => marked.insert outcome.errorKey (mark error.describe)
  | none => marked.merge outcome.entries

/-- The flat map of an outcome. -/
def toMap (outcome : Outcome String) : Entries String := outcome.toMapBy id

/-- The text of a status. -/
def statusText : Option Int → String
  | none => "None"
  | some code => Number.integerText code

/-- The error that a strict caller meets: the captured one, or an answer without success. -/
def strictError? (outcome : Outcome α) : Option AccessError :=
  match outcome.error with
  | some error => some error
  | none =>
    if isSuccess outcome.status then none
    else some {
      kind := .network
      message := "etcd returned HTTP " ++ statusText outcome.status ++ " for " ++
        Text.quoted outcome.key
      key := some outcome.key
      status := outcome.status }

end Outcome

end Keyspace
