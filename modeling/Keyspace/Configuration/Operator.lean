import Keyspace.Configuration.Basic
import Keyspace.Text.LetterCase

/-!
# Operators

An operator makes a configuration of another one. Whatever an operator gives back, only a
configuration is accepted.
-/

namespace Keyspace

/-- What an operator gives back. -/
inductive Product where
  | configuration (result : Configuration)
  | other (document : Document)
deriving DecidableEq

/-- A function from configurations; it may fail, and may give back anything. -/
abbrev Operator := Configuration → Except Fault Product

namespace Configuration

/-- Apply an operator. -/
def apply (operator : Operator) (configuration : Configuration) : Except Fault Configuration := do
  match ← operator configuration with
  | .configuration result => return result
  | .other document =>
    .error ⟨.type, "operator returned " ++ document.kindName ++ ", expected Configuration"⟩

end Configuration

namespace Operator

/-- Give back the configuration itself. -/
def identity : Operator := fun configuration => .ok (.configuration configuration)

/-- A value in upper case, which has to be a text. -/
def upperValue : Document → Except Fault Document
  | .text text => .ok (.text (Text.upper text))
  | other => .error (.lacks other "upper")

/-- Put all values in upper case. -/
def upper : Operator := fun configuration => do
  let pairs ← configuration.entries.pairs.mapM fun (key, value) =>
    (upperValue value).map fun raised => (key, raised)
  return .configuration { configuration with entries := Entries.ofList pairs }

/-- The entry at a key that has to be there. -/
def entry (configuration : Configuration) (key : Document) : Except Fault (String × Document) := do
  let value ← configuration.item key
  match key.text? with
  | some key => return (key, value)
  | none => .error (.missingKey key)

/-- Keep some keys, in the order in which they are given. -/
def only (keys : List Document) : Operator := fun configuration => do
  let pairs ← keys.mapM (entry configuration)
  return .configuration { configuration with entries := Entries.ofList pairs }

/-- Keep what is not metadata, and forget the sources. -/
def visible : Operator := fun configuration =>
  .ok (.configuration { entries := configuration.properties })

/-- Fail with a message. -/
def failing (message : String) : Operator := fun _ => .error ⟨.value, message⟩

/-- Give back a document in place of a configuration. -/
def constant (document : Document) : Operator := fun _ => .ok (.other document)

/-- The warning about an operator that is defined as a class of its own. -/
def deprecation (name : String) : String :=
  name ++ " subclasses ConfigOperator, which is deprecated; use a plain callable instead"

/-- The fault of making an operator of the class that has no operation. -/
def abstract : Fault :=
  ⟨.type, "Can't instantiate abstract class ConfigOperator with abstract method operate"⟩

end Operator

end Keyspace
