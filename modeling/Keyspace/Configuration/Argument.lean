import Keyspace.Configuration.Basic

/-!
# Configurations of arbitrary arguments

A configuration is made of a map and of sources. The map may be an object, or anything that can be
walked over whose items are pairs; the sources may be anything that can be walked over.
-/

namespace Keyspace.Configuration

/-- The items of a document. -/
def items (document : Document) : Except Fault (List Document) :=
  match document.items? with
  | some items => .ok items
  | none => .error (.notIterable document)

/-- The message about an item that should be a pair. -/
def itemMessage (index : Nat) : String :=
  "dictionary update sequence element #" ++ Number.integerText index

/-- The pair in the item at an index. -/
def pair (index : Nat) (item : Document) : Except Fault (Document × Document) :=
  match item.items? with
  | none => .error ⟨.type, "cannot convert " ++ itemMessage index ++ " to a sequence"⟩
  | some [key, value] => (checkKey key).map fun _ => (key, value)
  | some parts => .error ⟨.value, itemMessage index ++ " has length " ++
      Number.integerText parts.length ++ "; 2 is required"⟩

/-- The entry of a pair; only texts are keys of a flat map. -/
def entry : Document × Document → Except Fault (String × Document)
  | (.text key, value) => .ok (key, value)
  | (other, _) => .error (.lacks other "startswith")

/-- The map in a document. -/
def entriesOf : Document → Except Fault (Entries Document)
  | .object members => .ok (Entries.ofList members)
  | other => do
    let pairs ← ((← items other).mapIdx pair).mapM id
    return Entries.ofList (← pairs.mapM entry)

/-- Make a configuration of a map, and of sources unless there are none. -/
def create (properties : Document) (sources : Option Document) : Except Fault Configuration := do
  let entries ← entriesOf properties
  let sources ← match sources with
    | none => .ok []
    | some sources => items sources
  return { entries, sources }

end Keyspace.Configuration
