import Keyspace.Proofs.Provider.Starting
import Mathlib.Data.List.Sort

/-!
# The failed sources that a start tells

A start that is not complete tells which sources failed. It finds them by the markers of their
directories, so that it names every source that shares its directory with one that failed.
`start_tells_failed_iff` says what is told by every start, and when this is the truth.
-/

namespace Keyspace

/-- The sources that an event tells to have failed, if it is about such. -/
def Event.failedSources? : Event → Option (List String)
  | .partiallyLoaded names => some names
  | _ => none

namespace Transcript

variable {State : Type} {before between after : Transcript State}

/-- No failed sources are told between two transcripts. -/
def IsQuiet (before after : Transcript State) : Prop :=
  ∃ added, after.events = before.events ++ added ∧ added.filterMap Event.failedSources? = []

theorem IsQuiet.refl (transcript : Transcript State) : IsQuiet transcript transcript :=
  ⟨[], (List.append_nil _).symm, rfl⟩

/-- What is quiet before and after a transcript is quiet as a whole. -/
theorem IsQuiet.trans (first : IsQuiet before between) (second : IsQuiet between after) :
    IsQuiet before after := by
  obtain ⟨added, areAdded, quiet⟩ := first
  obtain ⟨more, areMore, quietAfter⟩ := second
  exact ⟨added ++ more, by rw [areMore, areAdded, List.append_assoc],
    by rw [List.filterMap_append, quiet, quietAfter, List.append_nil]⟩

theorem IsQuiet.note {event : Event} (aboutElse : event.failedSources? = none)
    (transcript : Transcript State) : IsQuiet transcript (transcript.note event) :=
  ⟨[event], rfl, by simp [aboutElse]⟩

end Transcript

open Transcript (IsQuiet)

namespace Accessor

variable {State : Type} {serve : Server State} {accessor : Accessor} {isOpen : Bool} {call : Call}
  {transcript : Transcript State} {outcome : Outcome String}

/-- Sending a request is quiet. -/
theorem isQuiet_dispatch (request : Except Url.UrlFault Request) :
    IsQuiet transcript (dispatch serve isOpen request transcript).2 := by
  cases request with
  | error fault => exact .refl transcript
  | ok ready =>
    cases isOpen with
    | false => exact .refl transcript
    | true =>
      refine ⟨_, events_exchange ready, ?_⟩
      cases (serve transcript.server ready).1 <;> rfl

/-- Performing an operation that comes to an outcome is quiet. -/
theorem isQuiet_perform
    (performed : (accessor.perform serve isOpen call transcript).1 = .ok outcome) :
    IsQuiet transcript (accessor.perform serve isOpen call transcript).2 := by
  obtain ⟨attempt, event, -, concluded, isAfter⟩ := exists_attempt_of_perform performed
  have aboutElse : event.failedSources? = none := by
    have concludes := concludes_of_conclude concluded
    generalize (dispatch serve isOpen attempt.request transcript).1 = reply at concludes
    cases concludes <;> rfl
  rw [isAfter]
  exact (isQuiet_dispatch attempt.request).trans (.note aboutElse _)

end Accessor

namespace Visit

variable {State : Type} {serve : Server State} {default : DefaultAccessor} {visit : Visit}
  {before after : Transcript State}

/-- A visit is quiet: the failure of a source is told by an event of its own. -/
theorem Leads.isQuiet (leads : visit.Leads serve default before after) : IsQuiet before after := by
  have quiet := Accessor.isQuiet_perform leads.performed
  have listed := leads.listed
  have performed := leads.performed
  rcases isPerformed :
      visit.accessor.perform serve visit.source.isOpen visit.source.listing before with
    ⟨result, between⟩
  rw [isPerformed] at quiet performed
  obtain rfl : result = .ok visit.outcome := performed
  simp only [PropertySource.properties, leads.resolved, isPerformed] at listed
  split at listed
  · obtain rfl : between = after := congrArg Prod.snd listed
    exact quiet
  · next event isEvent =>
    obtain rfl : between.note event = after := congrArg Prod.snd listed
    refine quiet.trans (.note ?_ between)
    simp only [PropertySource.failure?, Option.bind_eq_bind, Option.pure_def,
      Option.bind_eq_some_iff, Option.some.injEq] at isEvent
    obtain ⟨description, -, name, -, rfl⟩ := isEvent
    rfl

/-- A visit that is not answered failed. -/
theorem Leads.failed_of_fault {fault : Fault} (leads : visit.Leads serve default before after)
    (isReply : visit.reply = .error fault) : visit.failed = true := by
  obtain ⟨attempt, event, -, -, concludes⟩ := leads.yields.exists_concludes
  unfold failed
  generalize visit.outcome = outcome at concludes ⊢
  rw [isReply] at concludes
  cases concludes
  rfl

/-- A visit with a good outcome did not fail. -/
theorem failed_eq_false_of_ok (good : visit.outcome.ok = true) : visit.failed = false := by
  rw [failed, Outcome.error_of_ok good]
  rfl

end Visit

/-- Several visits are quiet. -/
theorem Visits.isQuiet {State : Type} {serve : Server State} {default : DefaultAccessor}
    {visited : List Visit} {before after : Transcript State}
    (visits : Visits serve default before visited after) : IsQuiet before after := by
  induction visits with
  | none => exact .refl _
  | next leads _ inductionHypothesis => exact leads.isQuiet.trans inductionHypothesis

namespace Visit

/-- A visit goes before another one unless the ordinal of its source is higher. -/
def Precedes (visit other : Visit) : Prop :=
  visit.source.ordinal.le other.source.ordinal = true

instance : DecidableRel Precedes := fun _ _ => inferInstanceAs (Decidable (_ = true))

/-- A visit is suspect when one of several visits to its directory failed. -/
def isSuspect (visited : List Visit) (visit : Visit) : Bool :=
  visited.any fun other => other.failed && other.source.directory = visit.source.directory

theorem isSuspect_iff {visited : List Visit} {visit : Visit} :
    visit.isSuspect visited = true ↔
      ∃ other ∈ visited, other.source.directory = visit.source.directory ∧ other.failed = true := by
  simp [isSuspect, and_comm]

/-- A visit to a source that was put in its place can be taken out of it. -/
theorem exists_of_insertByOrdinal {first : PropertySource} {later : List PropertySource}
    {visited : List Visit} (put : visited.map source = first.insertByOrdinal later) :
    ∃ (visit : Visit) (others : List Visit), visit.source = first ∧ others.map source = later ∧
      others.orderedInsert Precedes visit = visited := by
  induction later generalizing visited with
  | nil =>
    obtain ⟨visit, none, rfl, rfl, isNone⟩ := List.map_eq_cons_iff.1 put
    obtain rfl := List.map_eq_nil_iff.1 isNone
    exact ⟨visit, [], rfl, rfl, rfl⟩
  | cons next later inductionHypothesis =>
    rw [PropertySource.insertByOrdinal] at put
    split at put
    · next before =>
      obtain ⟨visit, others, rfl, rfl, areOthers⟩ := List.map_eq_cons_iff.1 put
      obtain ⟨second, rest, rfl, rfl, rfl⟩ := List.map_eq_cons_iff.1 areOthers
      exact ⟨visit, second :: rest, rfl, rfl, List.orderedInsert_cons_of_le _ rest before⟩
    · next notBefore =>
      obtain ⟨second, rest, rfl, rfl, areRest⟩ := List.map_eq_cons_iff.1 put
      obtain ⟨visit, others, rfl, rfl, rfl⟩ := inductionHypothesis areRest
      exact ⟨visit, second :: others, rfl, rfl, List.orderedInsert_of_not_le _ others notBefore⟩

/-- Visits to sources that were put in order can be taken back to the order of the sources. -/
theorem exists_unsorted {sources : List PropertySource} {visited : List Visit}
    (ordered : visited.map source = PropertySource.byOrdinal sources) :
    ∃ unsorted : List Visit, unsorted.map source = sources ∧
      unsorted.insertionSort Precedes = visited := by
  induction sources generalizing visited with
  | nil =>
    obtain rfl := List.map_eq_nil_iff.1 ordered
    exact ⟨[], rfl, rfl⟩
  | cons first later inductionHypothesis =>
    obtain ⟨visit, others, rfl, areOthers, rfl⟩ := exists_of_insertByOrdinal ordered
    obtain ⟨unsorted, rfl, rfl⟩ := inductionHypothesis areOthers
    exact ⟨visit :: unsorted, rfl, rfl⟩

end Visit

namespace Provider

variable {State : Type} {serve : Server State} {default : DefaultAccessor} {provider : Provider}
  {before between : Transcript State} {configuration : Configuration}

/-- There is one visit to each source, in the order of the sources. The visits take place by ordinal,
those of one ordinal as they stand. -/
structure AreVisitsTo (serve : Server State) (default : DefaultAccessor)
    (sources : List PropertySource) (before : Transcript State) (visited : List Visit) : Prop where
  sources : visited.map Visit.source = sources
  visits : ∃ after, Visits serve default before (visited.insertionSort Visit.Precedes) after

/-- What is told of failed sources: nothing where there are none. -/
def tellingOf (names : List String) : List (List String) := if names.isEmpty then [] else [names]

theorem tellingOf_inj {names others : List String} :
    tellingOf names = tellingOf others ↔ names = others := by
  cases names <;> cases others <;> simp [tellingOf]

/-- The visits of a build that completes, in the order of the sources. -/
theorem exists_areVisitsTo
    (built : provider.build serve default before = (.ok configuration, between)) :
    ∃ visited names, AreVisitsTo serve default provider.sources before visited ∧
      configuration = .ofTexts (((visited.insertionSort Visit.Precedes).map fun visit =>
        visit.outcome.toMap).foldl Entries.merge .empty) names ∧ IsQuiet before between := by
  have cases := build_cases serve default provider before
  rw [built] at cases
  cases cases with
  | completed ordered visits areNames isMerged =>
    obtain ⟨unsorted, areSources, rfl⟩ := Visit.exists_unsorted ordered
    exact ⟨unsorted, _, ⟨areSources, _, visits⟩, isMerged, visits.isQuiet.trans (.note rfl _)⟩

/-- Some of several visits to sources with names have the names of their sources. -/
theorem mapM_filter {visited : List Visit} {keep : Visit → Bool}
    (named : ∀ visit ∈ visited, ∃ name, visit.source.displayName default = .ok name) :
    ((visited.filter keep).map Visit.source).mapM (PropertySource.displayName default) =
        .ok (PropertySource.namesOf default ((visited.filter keep).map Visit.source)) ∧
      (PropertySource.namesOf default ((visited.filter keep).map Visit.source)).length =
        (visited.filter keep).length := by
  have kept : ∀ source ∈ (visited.filter keep).map Visit.source, ∃ name,
      source.displayName default = .ok name := by
    intro source isSource
    obtain ⟨visit, isVisit, rfl⟩ := List.mem_map.1 isSource
    exact named visit (List.mem_of_mem_filter isVisit)
  simpa only [List.length_map] using PropertySource.mapM_displayName kept

/-- Where no leaf that was listed is set aside, the failed sources are those of the suspect visits. -/
theorem failedSources_eq {visited : List Visit} {names : List String}
    (areVisits : AreVisitsTo serve default provider.sources before visited)
    (isMerged : configuration = .ofTexts (((visited.insertionSort Visit.Precedes).map fun visit =>
      visit.outcome.toMap).foldl Entries.merge .empty) names)
    (plain : ∀ visit ∈ visited, ∀ leaf ∈ visit.leaves, Companion.isReserved leaf.key = false) :
    provider.failedSources default configuration = PropertySource.namesOf default
      ((visited.filter (Visit.isSuspect visited)).map Visit.source) := by
  obtain ⟨areSources, after, visits⟩ := areVisits
  have marked : ∀ visit : Visit, configuration.entries.contains visit.source.errorKey =
      visit.isSuspect visited := by
    intro visit
    have isMarked := contains_errorKey_iff visits isMerged
      (by simpa only [List.mem_insertionSort] using plain) visit.source
    simp only [List.mem_insertionSort] at isMarked
    rw [Bool.eq_iff_iff, isMarked, Visit.isSuspect_iff]
  have same : provider.sources.filter (fun source =>
        configuration.entries.contains source.errorKey) =
      (visited.filter (Visit.isSuspect visited)).map Visit.source := by
    rw [← areSources, List.filter_map]
    exact congrArg _ (List.filter_congr fun visit _ => marked visit)
  exact congrArg (PropertySource.namesOf default) same

/-- The suspect visits have the names of those that failed exactly when no visit that did not fail is
to the directory of one that did. -/
theorem names_suspects_eq_iff {visited : List Visit}
    (named : ∀ visit ∈ visited, ∃ name, visit.source.displayName default = .ok name) :
    PropertySource.namesOf default ((visited.filter (Visit.isSuspect visited)).map Visit.source) =
        PropertySource.namesOf default ((visited.filter Visit.failed).map Visit.source) ↔
      ∀ visit ∈ visited, ∀ other ∈ visited, visit.failed = false → other.failed = true →
        visit.source.directory ≠ other.source.directory := by
  have suspectOfFailed : ∀ visit ∈ visited, visit.failed = true →
      visit.isSuspect visited = true := fun visit isVisit isFailed =>
    Visit.isSuspect_iff.2 ⟨visit, isVisit, rfl, isFailed⟩
  constructor
  · intro sameNames visit isVisit other isOther notFailed isFailed sameDirectory
    have failedAmong : (visited.filter (Visit.isSuspect visited)).filter Visit.failed =
        visited.filter Visit.failed := by
      rw [List.filter_filter]
      refine List.filter_congr fun visit isVisit => ?_
      cases isFailed : visit.failed with
      | false => rfl
      | true => simp [suspectOfFailed visit isVisit isFailed]
    -- Names may be equal, but there are as many of them as visits.
    have sameLength := congrArg List.length sameNames
    rw [(mapM_filter named).2, (mapM_filter named).2, ← failedAmong, eq_comm,
      List.length_filter_eq_length_iff] at sameLength
    have isSuspect := Visit.isSuspect_iff.2 ⟨other, isOther, sameDirectory.symm, isFailed⟩
    simp [sameLength visit (List.mem_filter.2 ⟨isVisit, isSuspect⟩)] at notFailed
  · intro apart
    have same : visited.filter (Visit.isSuspect visited) = visited.filter Visit.failed := by
      refine List.filter_congr fun visit isVisit => ?_
      rw [Bool.eq_iff_iff]
      refine ⟨fun isSuspect => ?_, suspectOfFailed visit isVisit⟩
      obtain ⟨other, isOther, sameDirectory, isFailed⟩ := Visit.isSuspect_iff.1 isSuspect
      by_contra notFailed
      exact apart visit isVisit other isOther (by simpa using notFailed) isFailed sameDirectory.symm
    rw [same]

/-- Which sources a start tells to have failed. If no leaf that was listed is set aside, it tells once
the names of the sources to whose directory a visit failed, in the order of the provider, and nothing
where there are none. These are the names of the sources whose own visit failed exactly when none of
the others shares its directory with one of them. -/
theorem start_tells_failed_iff
    (built : provider.build serve default before = (.ok configuration, between)) :
    ∃ visited added suspects failed, AreVisitsTo serve default provider.sources before visited ∧
      (provider.start serve default before).2.2.events = before.events ++ added ∧
      ((visited.filter (Visit.isSuspect visited)).map Visit.source).mapM
        (PropertySource.displayName default) = .ok suspects ∧
      ((visited.filter Visit.failed).map Visit.source).mapM
        (PropertySource.displayName default) = .ok failed ∧
      ((∀ visit ∈ visited, ∀ leaf ∈ visit.leaves, Companion.isReserved leaf.key = false) →
        added.filterMap Event.failedSources? = tellingOf suspects ∧
        (added.filterMap Event.failedSources? = tellingOf failed ↔
          ∀ visit ∈ visited, ∀ other ∈ visited, visit.failed = false → other.failed = true →
            visit.source.directory ≠ other.source.directory)) := by
  obtain ⟨visited, names, areVisits, isMerged, added, areAdded, quiet⟩ := exists_areVisitsTo built
  have named : ∀ visit ∈ visited, ∃ name, visit.source.displayName default = .ok name := by
    obtain ⟨-, _, visits⟩ := areVisits
    intro visit isVisit
    obtain ⟨_, _, leads⟩ := visits.exists_leads visit ((List.mem_insertionSort _).2 isVisit)
    exact PropertySource.exists_displayName leads.resolved
  refine ⟨visited, _, _, _, areVisits, by rw [(start_of_ok built).2, areAdded, List.append_assoc],
    (mapM_filter named).1, (mapM_filter named).1, fun plain => ?_⟩
  have told : (added ++ if (provider.failedSources default configuration).isEmpty then []
        else [Event.partiallyLoaded (provider.failedSources default configuration)]).filterMap
          Event.failedSources? =
      tellingOf (PropertySource.namesOf default
        ((visited.filter (Visit.isSuspect visited)).map Visit.source)) := by
    rw [List.filterMap_append, quiet, List.nil_append, failedSources_eq areVisits isMerged plain,
      tellingOf]
    split <;> rfl
  rw [told]
  exact ⟨rfl, tellingOf_inj.trans (names_suspects_eq_iff named)⟩

/-- A source of this directory, and one of another or the same directory after it. -/
def pairedSources (directory : String) : List PropertySource :=
  [{ directory := "app", name := some "down", ordinal := .int 1 },
   { directory, name := some "up", ordinal := .int 2 }]

/-- The replies to these sources: a fault, and a listing. -/
def pairedReplies : List Reply :=
  [.error Script.exhausted, listingReply [[("key", .text "/app/a"), ("value", .int 1)]]]

/-- A build from these sources completes, and only its first visit failed. -/
theorem exists_build_of_paired {directory : String}
    (addressed : PropertySource.IsAddressed (.ok Accessor.standard)
      { directory, name := some "up", ordinal := .int 2 }) :
    ∃ visited configuration between,
      AreVisitsTo Script.serve (.ok Accessor.standard) (pairedSources directory)
        { server := pairedReplies } visited ∧
      Provider.build Script.serve (.ok Accessor.standard) { sources := pairedSources directory }
        { server := pairedReplies } = (.ok configuration, between) ∧
      (∀ visit ∈ visited, ∀ leaf ∈ visit.leaves, Companion.isReserved leaf.key = false) ∧
      ((visited.filter Visit.failed).map Visit.source).mapM
        (PropertySource.displayName (.ok Accessor.standard)) = .ok ["down"] := by
  have areAddressed : ∀ source ∈ pairedSources directory,
      source.IsAddressed (.ok Accessor.standard) := by
    simp only [pairedSources, List.forall_mem_cons]
    exact ⟨isAddressed_app rfl rfl rfl, addressed, by simp⟩
  have goesOn : ∀ reply ∈ pairedReplies, Accessor.endingFault? reply = none := by
    simp only [pairedReplies, List.forall_mem_cons]
    exact ⟨rfl, Accessor.endingFault?_ofDocument _ _, by simp⟩
  obtain ⟨visited, between, _, configuration, visits, ordered, areReplies, -, -, built⟩ :=
    exists_build_of_script { sources := pairedSources directory } areAddressed goesOn rfl
  obtain ⟨down, onward, rfl, isDown, areLater⟩ := List.map_eq_cons_iff.1 areReplies
  obtain ⟨up, onward, rfl, isUp, areLater⟩ := List.map_eq_cons_iff.1 areLater
  obtain rfl := List.map_eq_nil_iff.1 areLater
  obtain ⟨downFirst, upNext⟩ : down.source = _ ∧ [up.source] = _ := List.cons_eq_cons.1 ordered
  obtain ⟨upNext, -⟩ := List.cons_eq_cons.1 upNext
  obtain ⟨_, _, downLeads⟩ := visits.exists_leads down (by simp)
  obtain ⟨_, _, upLeads⟩ := visits.exists_leads up (by simp)
  have downFailed : down.failed = true := downLeads.failed_of_fault isDown
  have downLeaves : down.leaves = [] := by rw [Visit.leaves, isDown]
  obtain ⟨upGood, upLeaves⟩ := leaves_of_listingReply upLeads isUp (by decide +kernel) rfl
  have stays : [down, up].insertionSort Visit.Precedes = [down, up] :=
    List.Pairwise.insertionSort_eq (by simp [Visit.Precedes, downFirst, upNext]; rfl)
  refine ⟨[down, up], configuration, _, ⟨by simp [pairedSources, downFirst, upNext], between, ?_⟩,
    built, ?_, ?_⟩
  · rw [stays]
    exact visits
  · simp [downLeaves, upLeaves]
    decide +kernel
  · simp [downFailed, Visit.failed_eq_false_of_ok upGood, downFirst]
    rfl

/-- The law at sources of two directories: the one that failed is told. -/
theorem start_tells_failed_paired :
    ∃ configuration between, Provider.build Script.serve (.ok Accessor.standard)
        { sources := pairedSources "other" } { server := pairedReplies } =
          (.ok configuration, between) ∧
      (Provider.start Script.serve (.ok Accessor.standard) { sources := pairedSources "other" }
        { server := pairedReplies }).2.2.events.filterMap Event.failedSources? = [["down"]] ∧
      ∃ visited added suspects failed,
        AreVisitsTo Script.serve (.ok Accessor.standard) (pairedSources "other")
          { server := pairedReplies } visited ∧
        (Provider.start Script.serve (.ok Accessor.standard) { sources := pairedSources "other" }
          { server := pairedReplies }).2.2.events = [] ++ added ∧
        ((visited.filter (Visit.isSuspect visited)).map Visit.source).mapM
          (PropertySource.displayName (.ok Accessor.standard)) = .ok suspects ∧
        ((visited.filter Visit.failed).map Visit.source).mapM
          (PropertySource.displayName (.ok Accessor.standard)) = .ok failed ∧
        ((∀ visit ∈ visited, ∀ leaf ∈ visit.leaves, Companion.isReserved leaf.key = false) →
          added.filterMap Event.failedSources? = tellingOf suspects ∧
          (added.filterMap Event.failedSources? = tellingOf failed ↔
            ∀ visit ∈ visited, ∀ other ∈ visited, visit.failed = false → other.failed = true →
              visit.source.directory ≠ other.source.directory)) := by
  have evaluated : (Accessor.urlOf (Accessor.standard.keyAddress "other")
      (Operation.readTree true).query?).toOption.map (fun url => url.host.isEmpty) =
        some false := by decide +kernel
  obtain ⟨url, isUrl, -⟩ := Accessor.exists_ok_of_toOption evaluated
  obtain ⟨_, configuration, between, -, built, -⟩ :=
    exists_build_of_paired ⟨rfl, Accessor.standard, url, rfl, isUrl⟩
  exact ⟨configuration, between, built, by decide +kernel, start_tells_failed_iff built⟩

/-- Where two sources share a directory, the one that did not fail is told with the other. -/
theorem exists_told_without_failure :
    ∃ visited configuration between,
      AreVisitsTo Script.serve (.ok Accessor.standard) (pairedSources "app")
        { server := pairedReplies } visited ∧
      Provider.build Script.serve (.ok Accessor.standard) { sources := pairedSources "app" }
        { server := pairedReplies } = (.ok configuration, between) ∧
      (∀ visit ∈ visited, ∀ leaf ∈ visit.leaves, Companion.isReserved leaf.key = false) ∧
      ((visited.filter Visit.failed).map Visit.source).mapM
        (PropertySource.displayName (.ok Accessor.standard)) = .ok ["down"] ∧
      (Provider.start Script.serve (.ok Accessor.standard) { sources := pairedSources "app" }
        { server := pairedReplies }).2.2.events.filterMap Event.failedSources? =
          [["down", "up"]] := by
  obtain ⟨visited, configuration, between, areVisits, built, plain, isFailed⟩ :=
    exists_build_of_paired (isAddressed_app rfl rfl rfl)
  exact ⟨visited, configuration, between, areVisits, built, plain, isFailed, by decide +kernel⟩

end Provider

end Keyspace
