/-!
# Entries in order of arrival

Flat maps and document members keep their keys in the order in which the keys first arrived:
writing to a key that is present keeps its place, and a new key goes to the end. `Pairs` holds the
operations on plain lists of pairs, `Entries` the maps whose keys are known to be distinct.
-/

namespace Keyspace

namespace Pairs

variable {α β : Type}

/-- The keys of a list of pairs. -/
def keys (pairs : List (String × α)) : List String := pairs.map Prod.fst

@[simp] theorem keys_append (first second : List (String × α)) :
    keys (first ++ second) = keys first ++ keys second := List.map_append

/-- The value at the first occurrence of a key. -/
def find? (key : String) : List (String × α) → Option α
  | [] => none
  | (present, value) :: later => if present = key then some value else find? key later

/-- Write a value at a key. -/
def insert (key : String) (value : α) : List (String × α) → List (String × α)
  | [] => [(key, value)]
  | (present, old) :: later =>
    if present = key then (present, value) :: later else (present, old) :: insert key value later

/-- Keys present stay as they are, a new key goes to the end. -/
theorem keys_insert (key : String) (value : α) (pairs : List (String × α)) :
    keys (insert key value pairs) =
      if key ∈ keys pairs then keys pairs else keys pairs ++ [key] := by
  induction pairs with
  | nil => simp [insert, keys]
  | cons pair later inductionHypothesis =>
    obtain ⟨present, old⟩ := pair
    by_cases same : present = key
    · simp [insert, keys, same]
    · have apart : key ≠ present := fun equal => same equal.symm
      simp only [keys] at inductionHypothesis
      simp only [insert, same, if_false, keys, List.map_cons, List.mem_cons, apart, false_or,
        inductionHypothesis]
      split <;> simp [*]

/-- A new key goes to the end. -/
theorem insert_of_not_mem {key : String} (value : α) {pairs : List (String × α)}
    (absent : key ∉ keys pairs) : insert key value pairs = pairs ++ [(key, value)] := by
  induction pairs with
  | nil => rfl
  | cons pair later inductionHypothesis =>
    simp only [keys, List.map_cons, List.mem_cons, not_or] at absent
    simp [insert, Ne.symm absent.1, inductionHypothesis absent.2]

/-- A written value is found at its key, and other keys keep theirs. -/
theorem find?_insert (key other : String) (value : α) (pairs : List (String × α)) :
    find? other (insert key value pairs) =
      if key = other then some value else find? other pairs := by
  induction pairs with
  | nil => simp [insert, find?]
  | cons pair later inductionHypothesis =>
    obtain ⟨present, old⟩ := pair
    by_cases same : present = key
    · subst same
      by_cases found : present = other <;> simp [insert, find?, found]
    · by_cases found : present = other
      · subst found
        have apart : key ≠ present := fun equal => same equal.symm
        simp [insert, find?, same, apart]
      · simp [insert, find?, same, found, inductionHypothesis]

/-- The first of two lists that has a key decides. -/
theorem find?_append (key : String) (first second : List (String × α)) :
    find? key (first ++ second) = (find? key first).or (find? key second) := by
  induction first with
  | nil => rfl
  | cons pair later inductionHypothesis =>
    simp only [List.cons_append, find?, inductionHypothesis]
    split <;> rfl

/-- A key has no value exactly where it is not among the keys. -/
theorem find?_eq_none_iff {key : String} {pairs : List (String × α)} :
    find? key pairs = none ↔ key ∉ keys pairs := by
  induction pairs with
  | nil => simp [find?, keys]
  | cons pair later inductionHypothesis =>
    by_cases same : pair.1 = key
    · simp [find?, keys, same]
    · simp [find?, keys, same, Ne.symm same] at inductionHypothesis ⊢
      exact inductionHypothesis

/-- All values at a key, in order. -/
def valuesAt (key : String) (pairs : List (String × α)) : List α :=
  pairs.filterMap fun pair => if pair.1 = key then some pair.2 else none

@[simp] theorem valuesAt_singleton (key present : String) (value : α) :
    valuesAt key [(present, value)] = if present = key then [value] else [] := by
  by_cases same : present = key <;> simp [valuesAt, same]

@[simp] theorem mem_valuesAt {key : String} {value : α} {pairs : List (String × α)} :
    value ∈ valuesAt key pairs ↔ (key, value) ∈ pairs := by
  simp only [valuesAt, List.mem_filterMap, Option.ite_none_right_eq_some, Option.some.injEq]
  constructor
  · rintro ⟨pair, isPair, rfl, rfl⟩
    exact isPair
  · intro isPair
    exact ⟨(key, value), isPair, rfl, rfl⟩

@[simp] theorem valuesAt_append (key : String) (first second : List (String × α)) :
    valuesAt key (first ++ second) = valuesAt key first ++ valuesAt key second :=
  List.filterMap_append

theorem valuesAt_eq_nil {key : String} {pairs : List (String × α)} (absent : key ∉ keys pairs) :
    valuesAt key pairs = [] := by
  refine List.filterMap_eq_nil_iff.2 fun pair isPair => if_neg ?_
  rintro rfl
  exact absent (List.mem_map_of_mem isPair)

/-- The first of several values is found. -/
theorem find?_eq_head?_valuesAt (key : String) (pairs : List (String × α)) :
    find? key pairs = (valuesAt key pairs).head? := by
  induction pairs with
  | nil => rfl
  | cons pair later inductionHypothesis =>
    by_cases same : pair.1 = key
    · simp [find?, valuesAt, same]
    · simpa [find?, valuesAt, same] using inductionHypothesis

/-- Where keys are distinct, their order does not matter. -/
theorem find?_reverse {key : String} {pairs : List (String × α)} (distinct : (keys pairs).Nodup) :
    find? key pairs.reverse = find? key pairs := by
  induction pairs with
  | nil => rfl
  | cons pair later inductionHypothesis =>
    obtain ⟨absent, distinct⟩ := List.nodup_cons.1 distinct
    rw [List.reverse_cons, find?_append, inductionHypothesis distinct]
    by_cases same : pair.1 = key
    · have missing : find? key later = none := find?_eq_none_iff.2 (same ▸ absent)
      simp [find?, same, missing]
    · simp [find?, same]

/-- Where keys are distinct, a key has one value at most. -/
theorem valuesAt_of_distinct {pairs : List (String × α)} (distinct : (keys pairs).Nodup)
    (key : String) : valuesAt key pairs = (find? key pairs).toList := by
  induction pairs with
  | nil => rfl
  | cons pair later inductionHypothesis =>
    obtain ⟨absent, distinctLater⟩ := List.nodup_cons.1 distinct
    by_cases same : pair.1 = key
    · subst same
      simpa [find?, valuesAt] using valuesAt_eq_nil absent
    · simpa [find?, valuesAt, same] using inductionHypothesis distinctLater

/-- Writing keeps keys distinct. -/
theorem nodup_insert {key : String} {value : α} {pairs : List (String × α)}
    (distinct : (keys pairs).Nodup) : (keys (insert key value pairs)).Nodup := by
  rw [keys_insert]
  split
  · exact distinct
  · next absent =>
    refine List.nodup_append.2 ⟨distinct, by simp, ?_⟩
    intro present isPresent other isOther
    simp only [List.mem_singleton] at isOther
    intro equal
    exact absent (isOther ▸ equal ▸ isPresent)

/-- Write several pairs, one after the other. -/
def insertAll (added : List (String × α)) (pairs : List (String × α)) : List (String × α) :=
  added.foldl (fun written pair => insert pair.1 pair.2 written) pairs

/-- Which keys there are after writing several pairs depends on keys only. -/
theorem keys_insertAll_eq {added : List (String × α)} {otherAdded : List (String × β)}
    (sameAdded : keys added = keys otherAdded) :
    ∀ {pairs : List (String × α)} {other : List (String × β)}, keys pairs = keys other →
      keys (insertAll added pairs) = keys (insertAll otherAdded other) := by
  induction added generalizing otherAdded with
  | nil =>
    obtain rfl : otherAdded = [] := by simpa [keys] using sameAdded.symm
    exact fun same => same
  | cons pair later inductionHypothesis =>
    obtain ⟨otherPair, otherLater, rfl, sameKey, sameLater⟩ := List.map_eq_cons_iff.1 sameAdded.symm
    intro pairs other same
    refine inductionHypothesis sameLater.symm ?_
    rw [keys_insert, keys_insert, same, sameKey]

/-- Writing several pairs keeps keys distinct. -/
theorem nodup_insertAll {added : List (String × α)} :
    ∀ {pairs : List (String × α)}, (keys pairs).Nodup → (keys (insertAll added pairs)).Nodup := by
  induction added with
  | nil => exact fun distinct => distinct
  | cons pair later inductionHypothesis =>
    exact fun distinct => inductionHypothesis (nodup_insert distinct)

/-- Of several pairs written one after the other, the last one with a key decides. -/
theorem find?_insertAll (key : String) (added pairs : List (String × α)) :
    find? key (insertAll added pairs) = (find? key added.reverse).or (find? key pairs) := by
  induction added generalizing pairs with
  | nil => rfl
  | cons pair later inductionHypothesis =>
    have onward := inductionHypothesis (insert pair.1 pair.2 pairs)
    rw [find?_insert] at onward
    rw [List.reverse_cons, find?_append, Option.or_assoc]
    refine onward.trans (congrArg _ ?_)
    by_cases same : pair.1 = key <;> simp [find?, same]

end Pairs

/-- A finite map that remembers the order in which its keys first arrived. -/
structure Entries (α : Type) where
  pairs : List (String × α)
  distinct : (Pairs.keys pairs).Nodup

namespace Entries

variable {α β : Type}

instance [DecidableEq α] : DecidableEq (Entries α) := fun left right =>
  if equal : left.pairs = right.pairs then isTrue (by cases left; cases right; simp_all)
  else isFalse (fun same => equal (same ▸ rfl))

/-- The map without entries. -/
def empty : Entries α := ⟨[], List.nodup_nil⟩

instance : Inhabited (Entries α) := ⟨empty⟩

/-- The keys in order of arrival. -/
def keys (entries : Entries α) : List String := Pairs.keys entries.pairs

/-- The values in the order of their keys. -/
def values (entries : Entries α) : List α := entries.pairs.map Prod.snd

/-- How many keys there are. -/
def size (entries : Entries α) : Nat := entries.pairs.length

/-- The value at a key. -/
def find? (entries : Entries α) (key : String) : Option α := Pairs.find? key entries.pairs

@[simp] theorem find?_empty (key : String) : (empty : Entries α).find? key = none := rfl

/-- Whether a key is present. -/
def contains (entries : Entries α) (key : String) : Bool := (entries.find? key).isSome

/-- Write a value at a key. -/
def insert (entries : Entries α) (key : String) (value : α) : Entries α :=
  ⟨Pairs.insert key value entries.pairs, Pairs.nodup_insert entries.distinct⟩

/-- A written value is found at its key, and other keys keep theirs. -/
theorem find?_insert (entries : Entries α) (key other : String) (value : α) :
    (entries.insert key value).find? other =
      if key = other then some value else entries.find? other :=
  Pairs.find?_insert key other value entries.pairs

theorem mem_pairs_iff {entries : Entries α} {key : String} {value : α} :
    (key, value) ∈ entries.pairs ↔ entries.find? key = some value := by
  rw [← Pairs.mem_valuesAt, Pairs.valuesAt_of_distinct entries.distinct]
  simp [find?]

/-- The map of a list of pairs; the last value of a key counts, at the place of its first. -/
def ofList (pairs : List (String × α)) : Entries α :=
  ⟨Pairs.insertAll pairs [], Pairs.nodup_insertAll List.nodup_nil⟩

/-- Of the values at a key, the last one counts. -/
theorem find?_ofList (pairs : List (String × α)) (key : String) :
    (ofList pairs).find? key = (Pairs.valuesAt key pairs).getLast? := by
  have written := Pairs.find?_insertAll key pairs []
  have reversed : Pairs.valuesAt key pairs.reverse = (Pairs.valuesAt key pairs).reverse :=
    List.filterMap_reverse
  rw [Pairs.find?_eq_head?_valuesAt key pairs.reverse, reversed, List.head?_reverse] at written
  simpa [ofList, find?, Pairs.find?] using written

/-- How many entries the map of a list of pairs has depends on keys only. -/
theorem size_ofList_eq {pairs : List (String × α)} {other : List (String × β)}
    (same : Pairs.keys pairs = Pairs.keys other) : (ofList pairs).size = (ofList other).size := by
  have sameKeys : Pairs.keys (ofList pairs).pairs = Pairs.keys (ofList other).pairs :=
    Pairs.keys_insertAll_eq same rfl
  simpa [size, Pairs.keys] using congrArg List.length sameKeys

/-- Where all values at a key agree, none of them is lost. -/
theorem find?_ofList_eq_some_iff {pairs : List (String × α)} {key : String}
    (consistent : ∀ value other, (key, value) ∈ pairs → (key, other) ∈ pairs → value = other)
    {value : α} : (ofList pairs).find? key = some value ↔ (key, value) ∈ pairs := by
  rw [find?_ofList]
  constructor
  · intro isLast
    exact Pairs.mem_valuesAt.1 (List.mem_of_getLast? isLast)
  · intro isPair
    cases isLast : (Pairs.valuesAt key pairs).getLast? with
    | none =>
      have isValue := Pairs.mem_valuesAt.2 isPair
      rw [List.getLast?_eq_none_iff.1 isLast] at isValue
      simp at isValue
    | some last =>
      have isPairLast := Pairs.mem_valuesAt.1 (List.mem_of_getLast? isLast)
      rw [consistent last value isPairLast isPair]

/-- Of lists of pairs that are written one after the other, the last one with a key decides. -/
theorem find?_ofList_flatMap {γ : Type} (parts : List γ) (pairsOf : γ → List (String × α))
    (key : String) :
    (ofList (parts.flatMap pairsOf)).find? key =
      (parts.filterMap fun part => (ofList (pairsOf part)).find? key).getLast? := by
  simp only [find?_ofList, Pairs.valuesAt, List.filterMap_flatMap, List.getLast?_flatMap,
    List.getLast?_filterMap]

/-- Write all entries of another map over this one. -/
def merge (entries added : Entries α) : Entries α :=
  ⟨Pairs.insertAll added.pairs entries.pairs, Pairs.nodup_insertAll entries.distinct⟩

/-- Entries written over others win. -/
theorem find?_merge (entries added : Entries α) (key : String) :
    (entries.merge added).find? key = (added.find? key).or (entries.find? key) := by
  have written := Pairs.find?_insertAll key added.pairs entries.pairs
  rwa [Pairs.find?_reverse added.distinct] at written

/-- The entries whose key satisfies a predicate. -/
def filterKeys (entries : Entries α) (keep : String → Bool) : Entries α :=
  ⟨entries.pairs.filter fun pair => keep pair.1,
    entries.distinct.sublist (List.Sublist.map _ List.filter_sublist)⟩

/-- Apply a function to every value. -/
def mapValues (entries : Entries α) (change : α → β) : Entries β :=
  ⟨entries.pairs.map fun pair => (pair.1, change pair.2), by
    have same : Pairs.keys (entries.pairs.map fun pair => (pair.1, change pair.2)) =
        Pairs.keys entries.pairs := by
      simp only [Pairs.keys, List.map_map]
      rfl
    exact same ▸ entries.distinct⟩

/-- Filtered entries have the values of the keys that are kept. -/
theorem find?_filterKeys (entries : Entries α) (keep : String → Bool) (key : String) :
    (entries.filterKeys keep).find? key = if keep key then entries.find? key else none := by
  obtain ⟨pairs, distinct⟩ := entries
  simp only [filterKeys, find?]
  clear distinct
  induction pairs with
  | nil => simp [Pairs.find?]
  | cons pair later inductionHypothesis =>
    by_cases same : pair.1 = key
    · subst same
      by_cases kept : keep pair.1 <;> simp [kept, Pairs.find?, inductionHypothesis]
    · by_cases kept : keep pair.1 <;> simp [kept, Pairs.find?, same, inductionHypothesis]

/-- A changed value is found where the value was. -/
theorem find?_mapValues (entries : Entries α) (change : α → β) (key : String) :
    (entries.mapValues change).find? key = (entries.find? key).map change := by
  obtain ⟨pairs, distinct⟩ := entries
  simp only [mapValues, find?]
  clear distinct
  induction pairs with
  | nil => rfl
  | cons pair later inductionHypothesis =>
    by_cases same : pair.1 = key <;> simp [Pairs.find?, same, inductionHypothesis]

/-- Of several maps merged one after the other, the last one with a key decides. -/
theorem find?_foldl_merge (maps : List (Entries α)) (entries : Entries α) (key : String) :
    (maps.foldl merge entries).find? key =
      (maps.filterMap fun map => map.find? key).getLast?.or (entries.find? key) := by
  induction maps generalizing entries with
  | nil => rfl
  | cons first later inductionHypothesis =>
    rw [List.foldl_cons, inductionHypothesis, find?_merge, ← Option.or_assoc,
      List.getLast?_filterMap, List.getLast?_filterMap, List.reverse_cons, List.findSome?_append]
    simp

/-- Both maps have the same keys with equal values, in whatever order. -/
def agrees (equal : α → α → Bool) (entries other : Entries α) : Bool :=
  entries.size = other.size && entries.pairs.all fun pair =>
    match other.find? pair.1 with
    | some value => equal pair.2 value
    | none => false

end Entries

end Keyspace
