import Keyspace.Proofs.Provider.Failures

/-!
# Starting a provider

A start loads a configuration, and finds out from its entries whether a source reported an error.
`start_complete_iff` says that it does so rightly: a failure stays visible whatever else is merged,
and nothing else looks like one unless a leaf is set aside.
-/

namespace Keyspace

namespace PropertySource

variable {default : DefaultAccessor} {sources : List PropertySource}

/-- The names of those sources that have one. -/
def namesOf (default : DefaultAccessor) (sources : List PropertySource) : List String :=
  sources.filterMap fun source => (source.displayName default).toOption

/-- Where all sources have names, none is left out. -/
theorem mapM_displayName
    (named : ∀ source ∈ sources, ∃ name, source.displayName default = .ok name) :
    sources.mapM (displayName default) = .ok (namesOf default sources) ∧
      (namesOf default sources).length = sources.length := by
  induction sources with
  | nil => exact ⟨rfl, rfl⟩
  | cons source later inductionHypothesis =>
    obtain ⟨name, isName⟩ := named source (by simp)
    obtain ⟨areNames, length⟩ := inductionHypothesis fun other isLater => named other (by simp [isLater])
    have together : namesOf default (source :: later) = name :: namesOf default later := by
      simp [namesOf, isName, Except.toOption]
    rw [together, List.mapM_cons, isName, areNames, List.length_cons, length]
    exact ⟨rfl, rfl⟩

end PropertySource

namespace Provider

variable {State : Type} {serve : Server State} {default : DefaultAccessor}
  {before between after : Transcript State} {visited : List Visit} {names : List String}
  {configuration : Configuration} {provider : Provider}

/-- A start whose build fails is not complete. -/
theorem start_of_error {failure : Failure}
    (built : provider.build serve default before = (.error failure, after)) :
    (provider.start serve default before).1 = false := by
  simp only [start, reload, built]

/-- A start whose build gives a configuration is complete when there are no failed sources, and tells
these otherwise. -/
theorem start_of_ok
    (built : provider.build serve default before = (.ok configuration, after)) :
    (provider.start serve default before).1 =
        (provider.failedSources default configuration).isEmpty ∧
      (provider.start serve default before).2.2.events = after.events ++
        if (provider.failedSources default configuration).isEmpty then []
        else [.partiallyLoaded (provider.failedSources default configuration)] := by
  have reloaded : provider.reload serve default before = (.ok ⟨provider.issued, configuration⟩,
      { provider with
        held := some ⟨provider.issued, configuration⟩
        issued := provider.issued + 1 }, after) := by
    simp only [reload, built, issue, hold]
  have sameFailed : failedSources default { provider with
      held := some ⟨provider.issued, configuration⟩
      issued := provider.issued + 1 } configuration =
        provider.failedSources default configuration := rfl
  simp only [start, reloaded, sameFailed]
  split <;> simp_all [Transcript.note]

/-- Sources that were all visited have names. -/
theorem exists_name_of_visits (visits : Visits serve default before visited between)
    {sources : List PropertySource} (all : sources.Perm (visited.map Visit.source)) :
    ∀ source ∈ sources, ∃ name, source.displayName default = .ok name := by
  intro source isSource
  obtain ⟨visit, isVisit, rfl⟩ := List.mem_map.1 (all.subset isSource)
  obtain ⟨_, _, leads⟩ := visits.exists_leads visit isVisit
  exact PropertySource.exists_displayName leads.resolved

/-- There are no failed sources exactly when the configuration has the marker of none. -/
theorem isEmpty_failedSources_iff
    (named : ∀ source ∈ provider.sources, ∃ name, source.displayName default = .ok name) :
    (provider.failedSources default configuration).isEmpty = true ↔
      ∀ source ∈ provider.sources, configuration.entries.contains source.errorKey = false := by
  have length := (PropertySource.mapM_displayName fun source isSource =>
    named source (List.mem_of_mem_filter (p := fun source =>
      configuration.entries.contains source.errorKey) isSource)).2
  have sameNames : PropertySource.namesOf default (provider.sources.filter fun source =>
      configuration.entries.contains source.errorKey) =
        provider.failedSources default configuration := rfl
  rw [List.isEmpty_iff, ← List.length_eq_zero_iff, ← sameNames, length, List.length_eq_zero_iff,
    List.filter_eq_nil_iff]
  simp

/-- A start whose build came to a configuration is complete exactly when the configuration has the
marker of no source that was visited. -/
theorem start_complete_of_ok {after : Transcript State}
    (built : provider.build serve default before = (.ok configuration, after))
    (ordered : visited.map Visit.source = PropertySource.byOrdinal provider.sources)
    (visits : Visits serve default before visited between) :
    (provider.start serve default before).1 = true ↔
      ∀ visit ∈ visited, configuration.entries.contains visit.source.errorKey = false := by
  have all : provider.sources.Perm (visited.map Visit.source) := by
    rw [ordered]
    exact (PropertySource.byOrdinal_perm provider.sources).symm
  rw [(start_of_ok built).1, isEmpty_failedSources_iff (exists_name_of_visits visits all)]
  simp [all.mem_iff]

/-- An answer without success is no error of a visit. -/
theorem noError_of_visits (visits : Visits serve default before visited between) :
    ∀ visit ∈ visited, ∀ response, visit.reply = .ok response →
      response.status ∉ successStatuses → visit.outcome.error = none := by
  intro visit isVisit response isReply noSuccess
  obtain ⟨_, _, leads⟩ := visits.exists_leads visit isVisit
  exact leads.noError_of_noSuccess isReply noSuccess

/-- The visits of a build, by ordinal: to all sources, or else to those before the first one that
cannot be listed. -/
def AreVisited (serve : Server State) (default : DefaultAccessor) (sources : List PropertySource)
    (before : Transcript State) (visited : List Visit) : Prop :=
  ∃ between, Visits serve default before visited between ∧
    (visited.map Visit.source = PropertySource.byOrdinal sources ∨
      ∃ failing later failure after,
        visited.map Visit.source ++ failing :: later = PropertySource.byOrdinal sources ∧
        failing.properties serve default between = (.error failure, after))

/-- When a start is complete. A source that failed keeps every start from being complete, whatever
the sources before and after it list. If no leaf that was listed is set aside, a start is complete
exactly when its build came to a configuration and no visit captured an error; and an answer without
success is no error. -/
theorem start_complete_iff (serve : Server State) (default : DefaultAccessor) (provider : Provider)
    (before : Transcript State) :
    ∃ visited, AreVisited serve default provider.sources before visited ∧
      (∀ visit ∈ visited, visit.outcome.error ≠ none →
        (provider.start serve default before).1 = false) ∧
      ((∀ visit ∈ visited, ∀ leaf ∈ visit.leaves, Companion.isReserved leaf.key = false) →
        ((provider.start serve default before).1 = true ↔
          (∃ configuration, (provider.build serve default before).1 = .ok configuration) ∧
            ∀ visit ∈ visited, visit.outcome.error = none)) ∧
      ∀ visit ∈ visited, ∀ response, visit.reply = .ok response →
        response.status ∉ successStatuses → visit.outcome.error = none := by
  have cases := build_cases serve default provider before
  rcases built : provider.build serve default before with ⟨result, after⟩
  rw [built] at cases
  cases cases with
  | @completed visited between names configuration ordered visits areNames isMerged =>
    have complete := start_complete_of_ok built ordered visits
    have incomplete : ∀ visit ∈ visited, visit.outcome.error ≠ none →
        (provider.start serve default before).1 = false := by
      intro visit isVisit isError
      have marked := contains_errorKey_of_failed visits isMerged isVisit
        (Option.isSome_iff_ne_none.2 isError)
      rw [← Bool.not_eq_true, complete]
      intro unmarked
      simp [unmarked visit isVisit] at marked
    refine ⟨visited, ⟨between, visits, .inl ordered⟩, incomplete, fun plain => ?_,
      noError_of_visits visits⟩
    constructor
    · intro isComplete
      refine ⟨⟨configuration, rfl⟩, fun visit isVisit => ?_⟩
      by_contra isError
      simp [incomplete visit isVisit isError] at isComplete
    · rintro ⟨-, noneFailed⟩
      refine complete.2 fun visit _ => ?_
      rw [← Bool.not_eq_true, contains_errorKey_iff visits isMerged plain]
      rintro ⟨other, isOther, -, isFailed⟩
      simp [Visit.failed, noneFailed other isOther] at isFailed
  | @failed visited between _ failing later failure ordered visits isFailing =>
    have incomplete := start_of_error built
    refine ⟨visited, ⟨between, visits, .inr ⟨failing, later, failure, after, ordered, isFailing⟩⟩,
      fun _ _ _ => incomplete, fun _ => ?_, noError_of_visits visits⟩
    simp [incomplete]

end Provider

end Keyspace
