import Keyspace.Companion
import Keyspace.Document.Shown
import Keyspace.Fault

/-!
# Configurations

A configuration is a flat map that is only read, with the names of the sources that it was made
from. Keys with a leading underscore are metadata: `properties` hides them, and `metadata` gathers the
companions of one key under their names. Keys are asked for as documents, since a caller may ask
for anything; a list or an object is refused, and what is no text is not found.
-/

namespace Keyspace

/-- A read-only flat map with its sources. -/
structure Configuration where
  entries : Entries Document
  sources : List Document := []
deriving DecidableEq

namespace Configuration

/-- The configuration of a flat map of texts. -/
def ofTexts (texts : Entries String) (sources : List String) : Configuration where
  entries := texts.mapValues .text
  sources := sources.map .text

/-- A list or an object cannot be a key. -/
def checkKey (key : Document) : Except Fault Unit :=
  match key with
  | .array _ | .object _ => .error ⟨.type, "unhashable type: '" ++ key.kindName ++ "'"⟩
  | _ => .ok ()

/-- The value at a key, if there is one. -/
def find? (configuration : Configuration) (key : Document) : Except Fault (Option Document) := do
  checkKey key
  return key.text?.bind configuration.entries.find?

/-- The value at a key that has to be there. -/
def item (configuration : Configuration) (key : Document) : Except Fault Document := do
  match ← configuration.find? key with
  | some value => return value
  | none => .error (.missingKey key)

/-- The value at a key, or a default. -/
def get (configuration : Configuration) (key default : Document) : Except Fault Document :=
  (configuration.find? key).map fun found => found.getD default

/-- Whether a key is there. -/
def contains (configuration : Configuration) (key : Document) : Except Fault Bool :=
  (configuration.find? key).map Option.isSome

/-- The value at a key, or a default that must be something; a value of nothing counts as
missing. -/
def getOrDefault (configuration : Configuration) (key default : Document) :
    Except Fault Document := do
  if default = .null then .error ⟨.value, "default must not be None"⟩
  else match ← configuration.get key .null with
    | .null => return default
    | value => return value

/-- The entries that are not metadata. -/
def properties (configuration : Configuration) : Entries Document :=
  configuration.entries.filterKeys fun key => !Companion.isReserved key

/-- The companions of a key, under their names. -/
def metadata (configuration : Configuration) (key : Document) : Entries Document :=
  Entries.ofList (configuration.entries.pairs.filterMap fun (candidate, value) =>
    (Companion.name? key.shown candidate).map fun name => (name, value))

/-- The configuration in one line. -/
def summary (configuration : Configuration) : String :=
  "Configuration(properties=" ++ Number.integerText configuration.properties.size ++
    ", sources=" ++ (Document.array configuration.sources).quotedForm ++ ")"

/-- Configurations agree when their entries do; sources do not matter. -/
def agrees (configuration other : Configuration) : Bool :=
  configuration.entries.agrees Document.same other.entries

/-- A configuration agrees with a document that is an object of equal entries. -/
def agreesWith (configuration : Configuration) : Document → Bool
  | .object members => configuration.entries.agrees Document.same (Entries.ofList members)
  | _ => false

/-- The fault of writing to a configuration. -/
def notWritable : Fault := ⟨.type, "'Configuration' object does not support item assignment"⟩

/-- The fault of using a configuration as a key. -/
def notHashable : Fault := ⟨.type, "unhashable type: 'Configuration'"⟩

end Configuration

end Keyspace
