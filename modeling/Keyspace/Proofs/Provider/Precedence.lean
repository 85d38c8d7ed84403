import Keyspace.Proofs.Configuration
import Keyspace.Proofs.Provider.Building

/-!
# Precedence among sources

`build_precedence` says what the properties of a configuration are: at each key the value of the
last leaf that has one there, sources taken by ordinal and leaves in the order of their documents. A
source whose listing did not succeed has no leaves.
-/

namespace Keyspace

namespace Visit

variable {State : Type} {serve : Server State} {default : DefaultAccessor} {visit : Visit}
  {before after : Transcript State}

/-- A visit succeeded when it was answered with a status of success, and no error was captured. -/
def Succeeded (visit : Visit) : Prop :=
  ∃ response, visit.reply = .ok response ∧ response.status ∈ successStatuses ∧
    visit.outcome.error = none

/-- The visits with a good outcome are those that succeeded. -/
theorem Leads.ok_iff (leads : visit.Leads serve default before after) :
    visit.outcome.ok = true ↔ visit.Succeeded := by
  obtain ⟨attempt, event, -, -, concludes⟩ := leads.yields.exists_concludes
  unfold Succeeded
  generalize visit.reply = reply at concludes ⊢
  generalize visit.outcome = outcome at concludes ⊢
  cases concludes with
  | unanswered _ => simp [Outcome.ok]
  | refused noSuccess => simp [Outcome.ok, noSuccess]
  | unusable _ _ => simp [Outcome.ok]
  | understood success _ => simp [Outcome.ok, success]

theorem Leads.leaves_eq_nil (leads : visit.Leads serve default before after)
    (notSucceeded : ¬ visit.Succeeded) : visit.leaves = [] := by
  by_contra listsLeaves
  obtain ⟨_, _, good⟩ := exists_response_of_leaves_ne_nil listsLeaves
  exact notSucceeded (leads.ok_iff.1 good)

/-- What the last of several visits that tells something tells. -/
def latest (tell : Visit → Option String) (visited : List Visit) : Option String :=
  (visited.filterMap tell).getLast?

end Visit

namespace Provider

variable {State : Type} {serve : Server State} {default : DefaultAccessor}
  {before between after : Transcript State} {visited : List Visit} {names : List String}
  {configuration : Configuration} {provider : Provider}

/-- A build that gave a configuration has visited sources. All sources were visited by ordinal, those
of one ordinal as they were given, and the configuration names them in this order. -/
structure BuiltFrom (serve : Server State) (default : DefaultAccessor)
    (sources : List PropertySource) (before : Transcript State) (configuration : Configuration)
    (visited : List Visit) : Prop where
  visits : ∃ between, Visits serve default before visited between
  ordered : PropertySource.IsByOrdinal sources (visited.map Visit.source)
  named : ∃ names, (visited.map Visit.source).mapM (PropertySource.displayName default) =
    .ok names ∧ configuration.sources = names.map .text

/-- A configuration with the names of visits to all sources was built from them. -/
theorem builtFrom_of_visits (comparable : ∀ source ∈ provider.sources, source.ordinal.IsComparable)
    (ordered : visited.map Visit.source = PropertySource.byOrdinal provider.sources)
    (visits : Visits serve default before visited between)
    (areNames : (visited.map Visit.source).mapM (PropertySource.displayName default) = .ok names)
    (isNamed : configuration.sources = names.map .text) :
    BuiltFrom serve default provider.sources before configuration visited where
  visits := ⟨between, visits⟩
  ordered := by
    rw [ordered]
    exact PropertySource.isByOrdinal_byOrdinal comparable
  named := ⟨names, areNames, isNamed⟩

/-- A configuration that was built is merged from the flat maps of visits. -/
theorem exists_visits_of_build
    (built : provider.build serve default before = (.ok configuration, after))
    (comparable : ∀ source ∈ provider.sources, source.ordinal.IsComparable) :
    ∃ visited names, BuiltFrom serve default provider.sources before configuration visited ∧
      configuration = .ofTexts
        ((visited.map fun visit => visit.outcome.toMap).foldl Entries.merge .empty) names := by
  have cases := build_cases serve default provider before
  rw [built] at cases
  cases cases with
  | completed ordered visits areNames isMerged =>
    have isNamed := congrArg Configuration.sources isMerged
    exact ⟨_, _, builtFrom_of_visits comparable ordered visits areNames isNamed, isMerged⟩

/-- What visits tell at a place is told by a configuration that is merged from them. -/
theorem find?_entries_of_latest (isMerged : configuration = .ofTexts
      ((visited.map fun visit => visit.outcome.toMap).foldl Entries.merge .empty) names)
    {target : String} {tell : Visit → Option String}
    (each : ∀ visit ∈ visited, visit.outcome.toMap.find? target = tell visit) :
    configuration.entries.find? target = (Visit.latest tell visited).map .text := by
  rw [isMerged, Configuration.ofTexts, Entries.find?_mapValues, Entries.find?_foldl_merge,
    Entries.find?_empty, Option.or_none, List.filterMap_map, Visit.latest,
    ← List.filterMap_congr each]
  rfl

/-- The properties of a merged configuration are the values of the leaves that were listed, if none
of these is set aside; the last one with a value at a key decides. -/
theorem find?_properties_of_merged (visits : Visits serve default before visited between)
    (isMerged : configuration = .ofTexts
      ((visited.map fun visit => visit.outcome.toMap).foldl Entries.merge .empty) names)
    (plain : ∀ visit ∈ visited, ∀ leaf ∈ visit.leaves, Companion.isReserved leaf.key = false)
    (key : String) :
    configuration.properties.find? key =
      (((visited.flatMap Visit.leaves).filterMap (Leaf.valueAt key)).getLast?).map .text := by
  rw [Configuration.find?_properties]
  cases reserved : Companion.isReserved key with
  | true =>
    have none : (visited.flatMap Visit.leaves).filterMap (Leaf.valueAt key) = [] := by
      refine List.filterMap_eq_nil_iff.2 fun leaf isLeaf => if_neg ?_
      rintro rfl
      obtain ⟨visit, isVisit, isLeaf⟩ := List.mem_flatMap.1 isLeaf
      simp [plain visit isVisit leaf isLeaf] at reserved
    simp [none]
  | false =>
    have shown := find?_entries_of_latest isMerged fun visit isVisit => by
      obtain ⟨_, _, leads⟩ := visits.exists_leads visit isVisit
      exact Visit.find?_toMap_of_not_isReserved leads reserved
    rw [if_neg Bool.false_ne_true, shown, Visit.latest, List.filterMap_flatMap,
      List.getLast?_flatMap, List.getLast?_filterMap]

/-- The properties that a build gives. A source without success has no leaves. Where no leaf is set
aside, the properties are exactly the values of the leaves, and the last leaf with a value at a key
decides, sources by ordinal and leaves in the order of their documents. -/
theorem build_precedence
    (built : provider.build serve default before = (.ok configuration, after))
    (comparable : ∀ source ∈ provider.sources, source.ordinal.IsComparable) :
    ∃ visited, BuiltFrom serve default provider.sources before configuration visited ∧
      (∀ visit ∈ visited, ¬ visit.Succeeded → visit.leaves = []) ∧
      ((∀ visit ∈ visited, ∀ leaf ∈ visit.leaves, Companion.isReserved leaf.key = false) →
        ∀ key, configuration.properties.find? key =
          (((visited.flatMap Visit.leaves).filterMap (Leaf.valueAt key)).getLast?).map .text) := by
  obtain ⟨visited, names, builtFrom, isMerged⟩ := exists_visits_of_build built comparable
  obtain ⟨between, visits⟩ := builtFrom.visits
  refine ⟨visited, builtFrom, ?_, ?_⟩
  · intro visit isVisit notSucceeded
    obtain ⟨_, _, leads⟩ := visits.exists_leads visit isVisit
    exact leads.leaves_eq_nil notSucceeded
  · intro plain key
    exact find?_properties_of_merged visits isMerged plain key

/-- The members of an answer that lists nodes in a directory. -/
def listingMembers (nodes : List (List (String × Document))) : List (String × Document) :=
  [("node", .object [("dir", .bool true), ("nodes", .array (nodes.map .object))])]

/-- The reply with such an answer. -/
def listingReply (nodes : List (List (String × Document))) : Reply :=
  .ok (.ofDocument 200 (.object (listingMembers nodes)))

/-- A visit with such a reply succeeded with the leaves of the nodes. -/
theorem leaves_of_listingReply {visit : Visit} {nodes : List (List (String × Document))}
    {leaves : List Leaf} (leads : visit.Leads serve default before after)
    (isReply : visit.reply = listingReply nodes)
    (plain : Json.isPlain (.object (listingMembers nodes)) = true)
    (isListing : Answer.listing (listingMembers nodes) = .ok leaves) :
    visit.outcome.ok = true ∧ visit.leaves = leaves := by
  have isDocument := Json.read_write plain
  rw [← Response.text_ofDocument 200] at isDocument
  have success : (Response.ofDocument 200 (.object (listingMembers nodes))).status ∈
      successStatuses := by simp [Response.ofDocument, successStatuses]
  exact leads.leaves_of_listing isReply success isDocument isListing

/-- The standard accessor can be asked for this directory, if its client is open. -/
theorem isAddressed_app {source : PropertySource} (opened : source.isOpen = true)
    (noAccessor : source.accessor = none) (isDirectory : source.directory = "app") :
    source.IsAddressed (.ok Accessor.standard) := by
  have evaluated : (Accessor.urlOf (Accessor.standard.keyAddress "app")
      (Operation.readTree true).query?).toOption.map (fun url => url.host.isEmpty) =
        some false := by decide +kernel
  obtain ⟨url, isUrl, -⟩ := Accessor.exists_ok_of_toOption evaluated
  exact ⟨opened, Accessor.standard, url, by rw [PropertySource.resolve, noAccessor],
    by rw [isDirectory, isUrl]⟩

/-- Three sources of one directory, the last two of one ordinal below that of the first. -/
def rankedSources : List PropertySource :=
  [{ directory := "app", name := some "high", ordinal := .int 2 },
   { directory := "app", name := some "low", ordinal := .int 1 },
   { directory := "app", name := some "down", ordinal := .int 1 }]

/-- The replies to these sources by ordinal: two listings with a fault between them. -/
def rankedReplies : List Reply :=
  [listingReply [[("key", .text "/app/a"), ("value", .int 1)],
     [("key", .text "/app/b"), ("value", .text "1")]],
   .error Script.exhausted,
   listingReply [[("key", .text "/app/a"), ("value", .text "2")]]]

/-- The law at sources of which one is down: the higher source decides where both have a value. -/
theorem build_precedence_ranked :
    ∃ configuration after, Provider.build Script.serve (.ok Accessor.standard)
        { sources := rankedSources } { server := rankedReplies } = (.ok configuration, after) ∧
      (∀ source ∈ rankedSources, source.ordinal.IsComparable) ∧
      configuration.properties.find? "app/a" = some (.text "2") ∧
      configuration.properties.find? "app/b" = some (.text "1") ∧
      ∃ visited, BuiltFrom Script.serve (.ok Accessor.standard) rankedSources
          { server := rankedReplies } configuration visited ∧
        (∀ visit ∈ visited, ¬ visit.Succeeded → visit.leaves = []) ∧
        ((∀ visit ∈ visited, ∀ leaf ∈ visit.leaves, Companion.isReserved leaf.key = false) →
          ∀ key, configuration.properties.find? key =
            (((visited.flatMap Visit.leaves).filterMap (Leaf.valueAt key)).getLast?).map
              .text) := by
  have addressed : ∀ source ∈ rankedSources, source.IsAddressed (.ok Accessor.standard) := by
    simp only [rankedSources, List.forall_mem_cons]
    exact ⟨isAddressed_app rfl rfl rfl, isAddressed_app rfl rfl rfl, isAddressed_app rfl rfl rfl, by simp⟩
  have goesOn : ∀ reply ∈ rankedReplies, Accessor.endingFault? reply = none := by
    simp only [rankedReplies, List.forall_mem_cons]
    exact ⟨Accessor.endingFault?_ofDocument _ _, rfl, Accessor.endingFault?_ofDocument _ _, by simp⟩
  obtain ⟨visited, between, names, configuration, visits, -, areReplies, -, isMerged, built⟩ :=
    exists_build_of_script { sources := rankedSources } addressed goesOn rfl
  obtain ⟨low, onward, rfl, isLow, areLater⟩ := List.map_eq_cons_iff.1 areReplies
  obtain ⟨down, onward, rfl, isDown, areLater⟩ := List.map_eq_cons_iff.1 areLater
  obtain ⟨high, onward, rfl, isHigh, areLater⟩ := List.map_eq_cons_iff.1 areLater
  obtain rfl := List.map_eq_nil_iff.1 areLater
  obtain ⟨_, _, lowLeads⟩ := visits.exists_leads low (by simp)
  obtain ⟨_, _, highLeads⟩ := visits.exists_leads high (by simp)
  have lowLeaves := (leaves_of_listingReply lowLeads isLow (by decide +kernel) rfl).2
  have highLeaves := (leaves_of_listingReply highLeads isHigh (by decide +kernel) rfl).2
  have downLeaves : down.leaves = [] := by rw [Visit.leaves, isDown]
  have comparable : ∀ source ∈ rankedSources, source.ordinal.IsComparable := by
    simp [rankedSources, Number.IsComparable]
  have shows := find?_properties_of_merged visits isMerged (by
    simp [lowLeaves, downLeaves, highLeaves]
    decide +kernel)
  refine ⟨configuration, _, built, comparable, ?_, ?_, build_precedence built comparable⟩
  · simp [shows, lowLeaves, downLeaves, highLeaves]
    rfl
  · simp [shows, lowLeaves, downLeaves, highLeaves]
    rfl

end Provider

end Keyspace
