import Keyspace.Configuration.Basic
import Mathlib.Data.List.Basic

/-!
# The metadata and the properties of a configuration

A configuration gathers the companions of a key by what they begin with. `find?_metadata` says that
this finds under a name what the companion of the key with this name has, whatever the names. The keys
that are not set aside are found by `find?_properties`.
-/

namespace Keyspace.Configuration

/-- The companions of a key with a name are the entries at one key. -/
theorem valuesAt_named (owner name : String) (pairs : List (String × Document)) :
    Pairs.valuesAt name (pairs.filterMap fun (candidate, value) =>
        (Companion.name? owner candidate).map fun name => (name, value)) =
      Pairs.valuesAt (Companion.key owner name) pairs := by
  simp only [Pairs.valuesAt, List.filterMap_filterMap]
  refine List.filterMap_congr fun pair _ => ?_
  by_cases isCompanion : pair.1 = Companion.key owner name
  · simp [isCompanion, Companion.name?_key]
  · cases named : Companion.name? owner pair.1 with
    | none => simp [isCompanion]
    | some other =>
      have apart : other ≠ name := fun same =>
        isCompanion (same ▸ Companion.eq_key_of_name? named)
      simp [isCompanion, apart]

/-- The metadata of a key has at a name what stands at the companion of the key with this name. -/
theorem find?_metadata (configuration : Configuration) (owner name : String) :
    (configuration.metadata (.text owner)).find? name =
      configuration.entries.find? (Companion.key owner name) := by
  have gathered : (configuration.metadata (.text owner)).find? name =
      (Pairs.valuesAt (Companion.key owner name) configuration.entries.pairs).getLast? := by
    rw [metadata, Entries.find?_ofList]
    exact congrArg List.getLast? (valuesAt_named owner name _)
  rw [gathered, Pairs.valuesAt_of_distinct configuration.entries.distinct, Entries.find?]
  cases Pairs.find? (Companion.key owner name) configuration.entries.pairs <;> rfl

/-- The metadata of a key in the configuration of a map of texts is the texts at its companions. -/
theorem find?_metadata_ofTexts {texts : Entries String} {sources : List String}
    {owner name : String} {value : Document} :
    ((ofTexts texts sources).metadata (.text owner)).find? name = some value ↔
      ∃ text, value = .text text ∧ texts.find? (Companion.key owner name) = some text := by
  have isShown : (ofTexts texts sources).entries.find? (Companion.key owner name) =
      (texts.find? (Companion.key owner name)).map .text := Entries.find?_mapValues _ _ _
  rw [find?_metadata, isShown, Option.map_eq_some_iff]
  exact exists_congr fun text => by rw [and_comm, eq_comm]

/-- The properties of a configuration are its entries at keys that are not set aside. -/
theorem find?_properties (configuration : Configuration) (key : String) :
    configuration.properties.find? key =
      if Companion.isReserved key then none else configuration.entries.find? key := by
  rw [properties, Entries.find?_filterKeys]
  cases Companion.isReserved key <;> rfl

end Keyspace.Configuration
