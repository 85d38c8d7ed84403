import Keyspace.Proofs.Provider.Precedence

/-!
# Errors in merged configurations

A visit that captured an error tells it at the marker of its directory, and nothing else that visits
tell is there: neither a field nor a source has the name of an error. So a configuration that is
merged from visits has the marker of a directory exactly when one of the visits to this directory
failed (`contains_errorKey_iff`), and no visit after it takes the marker away.
-/

namespace Keyspace

namespace Accessor

variable {accessor : Accessor} {operation : Operation} {key : String} {reply : Reply}
  {outcome : Outcome String}

/-- An outcome without an error that is not good has nothing but the marker of its source. -/
theorem Yields.find?_toMap_of_refused (yields : Yields accessor operation key reply outcome)
    (noError : outcome.error = none) (notGood : outcome.ok = false) (target : String) :
    outcome.toMap.find? target =
      if Companion.key key Companion.sourceName = target then some accessor.source else none := by
  obtain ⟨attempt, event, rfl, rfl, concludes⟩ := yields.exists_concludes
  cases concludes with
  | unanswered _ => cases noError
  | refused _ => exact Outcome.find?_toMap_of_noError rfl target
  | unusable _ _ => cases noError
  | understood success _ => simp [Outcome.ok, success] at notGood

end Accessor

namespace Visit

variable {State : Type} {serve : Server State} {default : DefaultAccessor} {visit : Visit}
  {before after : Transcript State} {directory : String}

/-- A visit failed when an error was captured. -/
def failed (visit : Visit) : Bool := visit.outcome.error.isSome

/-- The error that a visit tells for a directory. -/
def errorAt (directory : String) (visit : Visit) : Option String :=
  if visit.source.directory = directory then visit.outcome.error.map AccessError.describe else none

/-- A visit tells an error for a directory exactly when it is a visit to it that failed. -/
theorem isSome_errorAt_iff :
    (visit.errorAt directory).isSome = true ↔
      visit.source.directory = directory ∧ visit.failed = true := by
  by_cases same : visit.source.directory = directory <;> simp [errorAt, failed, same]

/-- An answer without success is no error. -/
theorem Leads.noError_of_noSuccess (leads : visit.Leads serve default before after)
    {response : Response} (isReply : visit.reply = .ok response)
    (noSuccess : response.status ∉ successStatuses) : visit.outcome.error = none := by
  obtain ⟨attempt, event, -, -, concludes⟩ := leads.yields.exists_concludes
  generalize visit.outcome = outcome at concludes ⊢
  rw [isReply] at concludes
  cases concludes with
  | refused _ => rfl
  | unusable success _ => exact absurd success noSuccess
  | understood success _ => exact absurd success noSuccess

/-- The flat map of a visit without an error shows its leaves, and tells its source at a marker. -/
theorem Leads.find?_toMap_of_noError (leads : visit.Leads serve default before after)
    (noError : visit.outcome.error = none) (target : String) :
    visit.outcome.toMap.find? target =
      ((Entries.ofList (visit.leaves.flatMap (Leaf.entries visit.accessor.source))).find? target).or
        (if visit.sourceKey = target then some visit.accessor.source else none) := by
  cases good : visit.outcome.ok with
  | true =>
    obtain ⟨response, document, leaves, isReply, isDocument, made, -, shows⟩ :=
      leads.yields.exists_leaves good
    rw [shows target, leaves_eq isReply isDocument good, leavesOf_eq_of_made made]
    rfl
  | false =>
    have noLeaves : visit.leaves = [] := leads.leaves_eq_nil fun succeeded => by
      simp [leads.ok_iff.2 succeeded] at good
    rw [leads.yields.find?_toMap_of_refused noError good target, noLeaves]
    rfl

/-- A visit that failed tells its error at the marker of its own directory, and at no other. -/
theorem Leads.find?_toMap_error_of_failed (leads : visit.Leads serve default before after)
    (isFailed : visit.failed = true) (directory : String) :
    visit.outcome.toMap.find? (Companion.key directory Companion.errorName) =
      visit.errorAt directory := by
  obtain ⟨error, hasError⟩ := Option.isSome_iff_exists.1 isFailed
  have noSource : visit.outcome.sourceKey ≠ Companion.key directory Companion.errorName := by
    rw [Outcome.sourceKey, ne_eq, Companion.key_eq_key_iff (by decide) (by decide)]
    exact fun same => absurd same.2 (by decide)
  have isMarker : visit.outcome.errorKey = Companion.key directory Companion.errorName ↔
      visit.source.directory = directory := by
    rw [Outcome.errorKey, Companion.key_eq_key_iff (by decide) (by decide), and_iff_left rfl,
      leads.yields.key_outcome]
  simp only [Entries.find?, Outcome.pairs_toMap_of_error hasError, Pairs.find?, if_neg noSource,
    isMarker, errorAt, hasError, Option.map_some]

/-- At the marker of a directory, a visit tells the error that it captured, if the directory is its
own, when it lists no leaf that is set aside. -/
theorem Leads.find?_toMap_error (leads : visit.Leads serve default before after)
    (plain : ∀ leaf ∈ visit.leaves, Companion.isReserved leaf.key = false) (directory : String) :
    visit.outcome.toMap.find? (Companion.key directory Companion.errorName) =
      visit.errorAt directory := by
  cases isFailed : visit.failed with
  | true => exact leads.find?_toMap_error_of_failed isFailed directory
  | false =>
    have noError : visit.outcome.error = none := by simpa [failed] using isFailed
    have noSource : visit.sourceKey ≠ Companion.key directory Companion.errorName := by
      rw [sourceKey, ne_eq, Companion.key_eq_key_iff (by decide) (by decide)]
      exact fun same => absurd same.2 (by decide)
    have noLeaf : visit.leaves.filterMap (Leaf.atErrorMarker directory) = [] := by
      refine List.filterMap_eq_nil_iff.2 fun leaf isLeaf => if_neg fun isMarker => ?_
      simpa [isMarker] using plain leaf isLeaf
    rw [leads.find?_toMap_of_noError noError, if_neg noSource, Option.or_none,
      Entries.find?_ofList, Leaf.valuesAt_flatMap fun leaf isLeaf =>
        Leaf.valuesAt_error (isMade_of_mem_leaves isLeaf).fields.1 directory visit.accessor.source,
      noLeaf]
    simp [errorAt, noError]

end Visit

namespace Provider

variable {State : Type} {serve : Server State} {default : DefaultAccessor}
  {before between : Transcript State} {visited : List Visit} {names : List String}
  {configuration : Configuration}

/-- A configuration that is merged from visits has a key that one of their flat maps has. -/
theorem contains_of_merged (isMerged : configuration = .ofTexts
      ((visited.map fun visit => visit.outcome.toMap).foldl Entries.merge .empty) names)
    {target : String} {visit : Visit} (isVisit : visit ∈ visited)
    (told : (visit.outcome.toMap.find? target).isSome = true) :
    configuration.entries.contains target = true := by
  rw [Entries.contains, find?_entries_of_latest isMerged fun _ _ => rfl, Option.isSome_map,
    Visit.latest, Option.isSome_iff_ne_none, ne_eq, List.getLast?_eq_none_iff,
    List.filterMap_eq_nil_iff]
  intro untold
  simp [untold visit isVisit] at told

/-- A visit that failed leaves the marker of its directory in the configuration, whatever else is
visited before or after it. -/
theorem contains_errorKey_of_failed (visits : Visits serve default before visited between)
    (isMerged : configuration = .ofTexts
      ((visited.map fun visit => visit.outcome.toMap).foldl Entries.merge .empty) names)
    {visit : Visit} (isVisit : visit ∈ visited) (isFailed : visit.failed = true) :
    configuration.entries.contains visit.source.errorKey = true := by
  obtain ⟨_, _, leads⟩ := visits.exists_leads visit isVisit
  refine contains_of_merged isMerged isVisit ?_
  rw [PropertySource.errorKey, leads.find?_toMap_error_of_failed isFailed]
  exact Visit.isSome_errorAt_iff.2 ⟨rfl, isFailed⟩

/-- A configuration has the marker of a directory exactly when a visit to this directory failed, if no
leaf that was listed is set aside. -/
theorem contains_errorKey_iff (visits : Visits serve default before visited between)
    (isMerged : configuration = .ofTexts
      ((visited.map fun visit => visit.outcome.toMap).foldl Entries.merge .empty) names)
    (plain : ∀ visit ∈ visited, ∀ leaf ∈ visit.leaves, Companion.isReserved leaf.key = false)
    (source : PropertySource) :
    configuration.entries.contains source.errorKey = true ↔
      ∃ visit ∈ visited, visit.source.directory = source.directory ∧ visit.failed = true := by
  have told : configuration.entries.find? source.errorKey =
      (Visit.latest (Visit.errorAt source.directory) visited).map .text :=
    find?_entries_of_latest isMerged fun visit isVisit => by
      obtain ⟨_, _, leads⟩ := visits.exists_leads visit isVisit
      exact leads.find?_toMap_error (plain visit isVisit) source.directory
  rw [Entries.contains, told, Option.isSome_map, Visit.latest, Option.isSome_iff_ne_none, ne_eq,
    List.getLast?_eq_none_iff, List.filterMap_eq_nil_iff]
  simp [← Visit.isSome_errorAt_iff, Option.isSome_iff_ne_none]

end Provider

end Keyspace
