import Keyspace.Proofs.Provider.Precedence

/-!
# Companions in merged configurations

Flat maps are merged entry by entry, so that the companions of a key need not come from the source
whose value the key has. `build_companions` says where they come from: a field is told by the last
visit that has it, whether or not that visit has the value, and the source by the last one that
lists the key or has it as its directory.
-/

namespace Keyspace

namespace Visit

variable {State : Type} {serve : Server State} {default : DefaultAccessor} {visit : Visit}
  {before after : Transcript State} {key name : String}

/-- The leaf that a visit lists at a key. -/
def leafAt (key : String) (visit : Visit) : Option Leaf :=
  visit.leaves.find? fun leaf => leaf.key = key

/-- The value that a visit lists at a key. -/
def valueAt (key : String) (visit : Visit) : Option String :=
  (visit.leafAt key).bind fun leaf => leaf.data.value

/-- A field that a visit lists for a key. -/
def fieldAt (key name : String) (visit : Visit) : Option String :=
  (visit.leafAt key).bind fun leaf => Pairs.find? name leaf.data.fields

/-- A visit is plain when it succeeded with leaves of distinct keys, none of them set aside. -/
structure IsPlain (visit : Visit) : Prop where
  succeeded : visit.Succeeded
  distinct : (visit.leaves.map Leaf.key).Nodup
  notReserved : ∀ leaf ∈ visit.leaves, Companion.isReserved leaf.key = false

theorem sourceAt_of_valueAt {value : String} (isValue : visit.valueAt key = some value) :
    visit.sourceAt key = some visit.accessor.source := by
  obtain ⟨leaf, isLeaf, -⟩ := Option.bind_eq_some_iff.1 isValue
  have sameKey : leaf.key = key := by simpa using List.find?_some isLeaf
  exact if_pos (.inl ⟨leaf, List.mem_of_find?_eq_some isLeaf, sameKey⟩)

/-- Where keys are distinct, one leaf at most tells something at a key. -/
theorem filterMap_of_distinct {leaves : List Leaf} (distinct : (leaves.map Leaf.key).Nodup)
    (key : String) (tell : Leaf → Option String) :
    (leaves.filterMap fun leaf => if leaf.key = key then tell leaf else none).getLast? =
      (leaves.find? fun leaf => leaf.key = key).bind tell := by
  induction leaves with
  | nil => rfl
  | cons leaf later inductionHypothesis =>
    obtain ⟨absent, distinctLater⟩ := List.nodup_cons.1 distinct
    by_cases same : leaf.key = key
    · subst same
      have none : (later.filterMap fun other => if other.key = leaf.key then tell other else none) =
          [] := by
        refine List.filterMap_eq_nil_iff.2 fun other isOther => if_neg fun same => absent ?_
        exact same ▸ List.mem_map_of_mem isOther
      cases told : tell leaf <;> simp [none, told]
    · simpa [same] using inductionHypothesis distinctLater

theorem latest_append_cons (tell : Visit → Option String) (earlier later : List Visit)
    (visit : Visit) :
    latest tell (earlier ++ visit :: later) =
      (latest tell later).or ((tell visit).or (latest tell earlier)) := by
  simp [latest, List.getLast?_filterMap, List.findSome?_append, Option.or_assoc]

/-- What visits tell at last, one of them told, and none after it. -/
theorem exists_of_latest {tell : Visit → Option String} {visited : List Visit} {told : String}
    (isLatest : latest tell visited = some told) :
    ∃ earlier visit later, visited = earlier ++ visit :: later ∧ tell visit = some told ∧
      ∀ other ∈ later, tell other = none := by
  rw [latest, List.getLast?_filterMap, List.findSome?_eq_some_iff] at isLatest
  obtain ⟨later, visit, earlier, reversed, isTold, untold⟩ := isLatest
  refine ⟨earlier.reverse, visit, later.reverse, ?_, isTold, by simpa using untold⟩
  rw [← List.reverse_reverse visited, reversed]
  simp

end Visit

namespace Provider

variable {State : Type} {serve : Server State} {default : DefaultAccessor}
  {before between after : Transcript State} {visited : List Visit} {names : List String}
  {configuration : Configuration} {provider : Provider} {key : String}

/-- How a configuration shows a key whose value is that of one of several visits. -/
structure Shows (configuration : Configuration) (key : String) (earlier : List Visit)
    (last : Visit) (later : List Visit) : Prop where
  /-- The visit lists the value, and none after it lists another one. -/
  value : ∃ value, last.valueAt key = some value ∧
    configuration.properties.find? key = some (.text value)
  noOther : ∀ visit ∈ later, visit.valueAt key = none
  /-- A field is that of the visit, unless a later one lists it; if neither does, that of the last
  earlier one which does is left. -/
  field : ∀ name ∈ NodeData.fieldNames, configuration.entries.find? (Companion.key key name) =
    ((Visit.latest (Visit.fieldAt key name) later).or
      ((last.fieldAt key name).or (Visit.latest (Visit.fieldAt key name) earlier))).map .text
  /-- The source is that of the visit, unless a later one lists the key or has it as directory. -/
  source : configuration.entries.find? (Companion.key key Companion.sourceName) =
    some (.text ((Visit.latest (Visit.sourceAt key) later).getD last.accessor.source))

/-- A property of a configuration that is merged from plain visits is the value that the last of
them with one lists. -/
theorem find?_properties_of_plain (visits : Visits serve default before visited between)
    (isMerged : configuration = .ofTexts
      ((visited.map fun visit => visit.outcome.toMap).foldl Entries.merge .empty) names)
    (plain : ∀ visit ∈ visited, visit.IsPlain) (notReserved : Companion.isReserved key = false) :
    configuration.properties.find? key =
      (Visit.latest (Visit.valueAt key) visited).map .text := by
  rw [Configuration.find?_properties, notReserved, if_neg Bool.false_ne_true]
  refine find?_entries_of_latest isMerged fun visit isVisit => ?_
  obtain ⟨_, _, leads⟩ := visits.exists_leads visit isVisit
  rw [Visit.find?_toMap_of_not_isReserved leads notReserved]
  exact Visit.filterMap_of_distinct (plain visit isVisit).distinct key _

/-- The same of a field of a key. -/
theorem find?_field_of_plain (visits : Visits serve default before visited between)
    (isMerged : configuration = .ofTexts
      ((visited.map fun visit => visit.outcome.toMap).foldl Entries.merge .empty) names)
    (plain : ∀ visit ∈ visited, visit.IsPlain) {name : String}
    (isField : name ∈ NodeData.fieldNames) :
    configuration.entries.find? (Companion.key key name) =
      (Visit.latest (Visit.fieldAt key name) visited).map .text := by
  refine find?_entries_of_latest isMerged fun visit isVisit => ?_
  obtain ⟨_, _, leads⟩ := visits.exists_leads visit isVisit
  rw [Visit.find?_toMap_field leads (plain visit isVisit).notReserved key isField]
  exact Visit.filterMap_of_distinct (plain visit isVisit).distinct key _

/-- The same of the source of a key. -/
theorem find?_source_of_plain (visits : Visits serve default before visited between)
    (isMerged : configuration = .ofTexts
      ((visited.map fun visit => visit.outcome.toMap).foldl Entries.merge .empty) names)
    (plain : ∀ visit ∈ visited, visit.IsPlain) :
    configuration.entries.find? (Companion.key key Companion.sourceName) =
      (Visit.latest (Visit.sourceAt key) visited).map .text := by
  refine find?_entries_of_latest isMerged fun visit isVisit => ?_
  obtain ⟨_, _, leads⟩ := visits.exists_leads visit isVisit
  exact Visit.find?_toMap_source leads (plain visit isVisit).notReserved key

/-- The companions that a build of plain visits gives. Every property is shown as the last visit
that lists a value for it decides. -/
theorem build_companions
    (built : provider.build serve default before = (.ok configuration, after))
    (comparable : ∀ source ∈ provider.sources, source.ordinal.IsComparable) :
    ∃ visited, BuiltFrom serve default provider.sources before configuration visited ∧
      ((∀ visit ∈ visited, visit.IsPlain) →
        ∀ key value, configuration.properties.find? key = some value →
          ∃ earlier last later, visited = earlier ++ last :: later ∧
            Shows configuration key earlier last later) := by
  obtain ⟨visited, names, builtFrom, isMerged⟩ := exists_visits_of_build built comparable
  obtain ⟨between, visits⟩ := builtFrom.visits
  refine ⟨visited, builtFrom, ?_⟩
  intro plain key value isValue
  have notReserved : Companion.isReserved key = false := by
    by_contra reserved
    rw [Configuration.find?_properties, if_pos (by simpa using reserved)] at isValue
    simp at isValue
  have atKey : configuration.properties.find? key =
      (Visit.latest (Visit.valueAt key) visited).map .text :=
    find?_properties_of_plain visits isMerged plain notReserved
  rw [atKey] at isValue
  obtain ⟨told, isLatest, rfl⟩ := Option.map_eq_some_iff.1 isValue
  obtain ⟨earlier, last, later, rfl, isTold, untold⟩ := Visit.exists_of_latest isLatest
  refine ⟨earlier, last, later, rfl, ⟨told, isTold, by rw [atKey, isLatest]; rfl⟩, untold, ?_, ?_⟩
  · intro name isField
    rw [find?_field_of_plain visits isMerged plain isField, Visit.latest_append_cons]
  · rw [find?_source_of_plain visits isMerged plain, Visit.latest_append_cons,
      Visit.sourceAt_of_valueAt isTold]
    cases Visit.latest (Visit.sourceAt key) later <;> rfl

/-- Two sources of one directory. -/
def layeredSources : List PropertySource :=
  [{ directory := "app", name := some "low", ordinal := .int 1 },
   { directory := "app", name := some "high", ordinal := .int 2 }]

/-- The replies to these sources: both list one key, but only the first one with a lifetime. -/
def layeredReplies : List Reply :=
  [listingReply [[("key", .text "/app/k"), ("value", .text "1"), ("ttl", .int 60)]],
   listingReply [[("key", .text "/app/k"), ("value", .text "2")]]]

private theorem exists_layered_build :
    ∃ configuration after low high, Provider.build Script.serve (.ok Accessor.standard)
        { sources := layeredSources } { server := layeredReplies } = (.ok configuration, after) ∧
      (∀ source ∈ layeredSources, source.ordinal.IsComparable) ∧
      BuiltFrom Script.serve (.ok Accessor.standard) layeredSources { server := layeredReplies }
        configuration [low, high] ∧
      (∀ visit ∈ [low, high], visit.IsPlain) ∧
      high.leaves = [⟨"app/k", some "2", []⟩] ∧
      configuration.properties.find? "app/k" = some (.text "2") ∧
      configuration.entries.find? (Companion.key "app/k" "ttl") = some (.text "60") := by
  have addressed : ∀ source ∈ layeredSources, source.IsAddressed (.ok Accessor.standard) := by
    simp only [layeredSources, List.forall_mem_cons]
    exact ⟨isAddressed_app rfl rfl rfl, isAddressed_app rfl rfl rfl, by simp⟩
  have goesOn : ∀ reply ∈ layeredReplies, Accessor.endingFault? reply = none := by
    simp only [layeredReplies, List.forall_mem_cons]
    exact ⟨Accessor.endingFault?_ofDocument _ _, Accessor.endingFault?_ofDocument _ _, by simp⟩
  obtain ⟨visited, between, names, configuration, visits, areSources, areReplies, areNames, isMerged,
    built⟩ := exists_build_of_script { sources := layeredSources } addressed goesOn rfl
  obtain ⟨low, onward, rfl, isLow, areLater⟩ := List.map_eq_cons_iff.1 areReplies
  obtain ⟨high, onward, rfl, isHigh, areLater⟩ := List.map_eq_cons_iff.1 areLater
  obtain rfl := List.map_eq_nil_iff.1 areLater
  obtain ⟨_, _, lowLeads⟩ := visits.exists_leads low (by simp)
  obtain ⟨_, _, highLeads⟩ := visits.exists_leads high (by simp)
  obtain ⟨lowGood, lowLeaves⟩ : low.outcome.ok = true ∧
      low.leaves = [⟨"app/k", some "1", [("ttl", "60")]⟩] :=
    leaves_of_listingReply lowLeads isLow (by decide +kernel) (by decide +kernel)
  obtain ⟨highGood, highLeaves⟩ : high.outcome.ok = true ∧
      high.leaves = [⟨"app/k", some "2", []⟩] :=
    leaves_of_listingReply highLeads isHigh (by decide +kernel) (by decide +kernel)
  have comparable : ∀ source ∈ layeredSources, source.ordinal.IsComparable := by
    simp [layeredSources, Number.IsComparable]
  have notReserved : Companion.isReserved "app/k" = false := by decide +kernel
  have plain : ∀ visit ∈ [low, high], visit.IsPlain := by
    simp only [List.forall_mem_cons]
    refine ⟨⟨lowLeads.ok_iff.1 lowGood, ?_, ?_⟩, ⟨highLeads.ok_iff.1 highGood, ?_, ?_⟩, by simp⟩ <;>
    simp [lowLeaves, highLeaves, notReserved]
  refine ⟨configuration, _, low, high, built, comparable,
    builtFrom_of_visits comparable areSources visits areNames (by rw [isMerged]; rfl), plain,
    highLeaves, ?_, ?_⟩
  · rw [find?_properties_of_plain visits isMerged plain notReserved]
    simp [Visit.latest, Visit.valueAt, Visit.leafAt, lowLeaves, highLeaves]
  · rw [find?_field_of_plain visits isMerged plain (by simp [NodeData.fieldNames])]
    simp [Visit.latest, Visit.fieldAt, Visit.leafAt, lowLeaves, highLeaves, Pairs.find?]

/-- The law at these sources. -/
theorem build_companions_layered :
    ∃ configuration after, Provider.build Script.serve (.ok Accessor.standard)
        { sources := layeredSources } { server := layeredReplies } = (.ok configuration, after) ∧
      (∀ source ∈ layeredSources, source.ordinal.IsComparable) ∧
      configuration.properties.find? "app/k" = some (.text "2") ∧
      ∃ visited, BuiltFrom Script.serve (.ok Accessor.standard) layeredSources
          { server := layeredReplies } configuration visited ∧
        ((∀ visit ∈ visited, visit.IsPlain) →
          ∀ key value, configuration.properties.find? key = some value →
            ∃ earlier last later, visited = earlier ++ last :: later ∧
              Shows configuration key earlier last later) := by
  obtain ⟨configuration, after, low, high, built, comparable, -, -, -, isValue, -⟩ :=
    exists_layered_build
  exact ⟨configuration, after, built, comparable, isValue, build_companions built comparable⟩

/-- A companion need not come from where the value comes from: the last source has the value of a
key and no lifetime, and the configuration shows the lifetime that another source gave the key. -/
theorem exists_companion_of_other_source :
    ∃ configuration after earlier last, Provider.build Script.serve (.ok Accessor.standard)
        { sources := layeredSources } { server := layeredReplies } = (.ok configuration, after) ∧
      BuiltFrom Script.serve (.ok Accessor.standard) layeredSources { server := layeredReplies }
        configuration [earlier, last] ∧
      (∀ visit ∈ [earlier, last], visit.IsPlain) ∧
      configuration.properties.find? "app/k" = some (.text "2") ∧
      last.valueAt "app/k" = some "2" ∧ last.fieldAt "app/k" "ttl" = none ∧
      configuration.entries.find? (Companion.key "app/k" "ttl") = some (.text "60") := by
  obtain ⟨configuration, after, low, high, built, -, builtFrom, plain, highLeaves, isValue, isField⟩ :=
    exists_layered_build
  refine ⟨configuration, after, low, high, built, builtFrom, plain, isValue, ?_, ?_, isField⟩ <;>
  simp [Visit.valueAt, Visit.fieldAt, Visit.leafAt, highLeaves, Pairs.find?]

end Provider

end Keyspace
