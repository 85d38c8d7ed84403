import Keyspace.Proofs.Provider.Starting
import Mathlib.Data.List.Nodup

/-!
# Rearranging sources

Sources are put in order by ordinal, and sources of one ordinal as they are given. Where the
ordinals are integers that differ, nothing is left of how the sources are given: they have one order
only (`byOrdinal_eq_of_perm`). `actsAlike_of_perm` says what this means for a provider: builds,
reloads and starts come to the same however its sources are listed.
-/

namespace Keyspace

namespace PropertySource

variable {sources : List PropertySource}

/-- The ordinals of sources are integers, and no two of them are the same. -/
structure AreRanked (sources : List PropertySource) : Prop where
  integers : ∀ source ∈ sources, ∃ rank : Int, source.ordinal = .int rank
  distinct : (sources.map ordinal).Nodup

theorem AreRanked.isComparable (ranked : AreRanked sources) :
    ∀ source ∈ sources, source.ordinal.IsComparable := by
  intro source isSource
  obtain ⟨rank, isRank⟩ := ranked.integers source isSource
  simp [isRank, Number.IsComparable]

/-- Two sources of which neither comes after the other are the same. -/
theorem AreRanked.eq_of_le_of_le (ranked : AreRanked sources) {source other : PropertySource}
    (isSource : source ∈ sources) (isOther : other ∈ sources)
    (before : source.ordinal.le other.ordinal = true)
    (after : other.ordinal.le source.ordinal = true) : source = other := by
  obtain ⟨rank, isRank⟩ := ranked.integers source isSource
  obtain ⟨otherRank, isOtherRank⟩ := ranked.integers other isOther
  rw [isRank, isOtherRank] at before after
  simp only [Number.le, decide_eq_true_eq] at before after
  have sameOrdinal : source.ordinal = other.ordinal := by
    rw [isRank, isOtherRank, le_antisymm before after]
  exact List.inj_on_of_nodup_map ranked.distinct isSource isOther sameOrdinal

theorem AreRanked.of_perm (ranked : AreRanked sources) {others : List PropertySource}
    (rearranged : others.Perm sources) : AreRanked others where
  integers source isSource := ranked.integers source (rearranged.subset isSource)
  distinct := ((rearranged.map ordinal).nodup_iff).2 ranked.distinct

/-- Ranked sources have one order only. -/
theorem byOrdinal_eq_of_perm (ranked : AreRanked sources) {others : List PropertySource}
    (rearranged : others.Perm sources) : byOrdinal others = byOrdinal sources := by
  have ordered := isByOrdinal_byOrdinal ranked.isComparable
  have otherOrdered := isByOrdinal_byOrdinal (ranked.of_perm rearranged).isComparable
  have isSource : ∀ source, source ∈ byOrdinal sources → source ∈ sources :=
    fun source => ordered.perm.mem_iff.1
  have isOther : ∀ other, other ∈ byOrdinal others → other ∈ sources :=
    fun other inOthers => rearranged.subset (otherOrdered.perm.subset inOthers)
  refine List.Perm.eq_of_pairwise (fun other source inOthers inSources before after => ?_)
    otherOrdered.ascending ordered.ascending
    ((otherOrdered.perm.trans rearranged).trans ordered.perm.symm)
  exact ranked.eq_of_le_of_le (isOther other inOthers) (isSource source inSources) before after

end PropertySource

namespace Provider

variable {State : Type} {serve : Server State} {default : DefaultAccessor}
  {before : Transcript State} {provider other : Provider}

/-- What two providers have in common that come to the same from one transcript on, each with its
own serial numbers and with what it held before. -/
structure ActsAlike (serve : Server State) (default : DefaultAccessor)
    (before : Transcript State) (provider other : Provider) : Prop where
  /-- The same failure or the same configuration, after the same requests and events. -/
  build : other.build serve default before = provider.build serve default before
  reload : (other.reload serve default before).1.map Issued.configuration =
    (provider.reload serve default before).1.map Issued.configuration
  reloadDone : (other.reload serve default before).2.2 = (provider.reload serve default before).2.2
  start : (other.start serve default before).1 = (provider.start serve default before).1
  startSent : (other.start serve default before).2.2.requests =
    (provider.start serve default before).2.2.requests
  /-- Only in its warning a start tells the failed sources as they were given. -/
  told : ∀ configuration, (other.failedSources default configuration).Perm
    (provider.failedSources default configuration)

/-- A reload comes to what its build comes to, and does no more. -/
theorem reload_eq_build :
    (provider.reload serve default before).1.map Issued.configuration =
        (provider.build serve default before).1 ∧
      (provider.reload serve default before).2.2 = (provider.build serve default before).2 := by
  rcases built : provider.build serve default before with ⟨failure | configuration, after⟩ <;>
  simp [reload, built, issue, Except.map]

/-- A start sends what its build sends. -/
theorem requests_start :
    (provider.start serve default before).2.2.requests =
      (provider.build serve default before).2.requests := by
  rcases built : provider.build serve default before with ⟨failure | configuration, after⟩ <;>
  simp only [start, reload, built]
  · rfl
  · split <;> rfl

/-- A start is complete when its build comes to a configuration without failed sources. -/
theorem start_eq_true_iff :
    (provider.start serve default before).1 = true ↔
      ∃ configuration, (provider.build serve default before).1 = .ok configuration ∧
        provider.failedSources default configuration = [] := by
  rcases built : provider.build serve default before with ⟨failure | configuration, after⟩
  · simp [start_of_error built]
  · simp [(start_of_ok built).1]

/-- Failed sources are told in the order of the sources, and looked for in the same way. -/
theorem failedSources_perm (rearranged : other.sources.Perm provider.sources)
    (configuration : Configuration) :
    (other.failedSources default configuration).Perm
      (provider.failedSources default configuration) :=
  (rearranged.filter _).filterMap _

/-- A provider over ranked sources does not depend on the order in which they are listed. -/
theorem actsAlike_of_perm (ranked : PropertySource.AreRanked provider.sources)
    (rearranged : other.sources.Perm provider.sources) (serve : Server State)
    (default : DefaultAccessor) (before : Transcript State) :
    ActsAlike serve default before provider other := by
  have sameOrder : PropertySource.byOrdinal other.sources =
      PropertySource.byOrdinal provider.sources :=
    PropertySource.byOrdinal_eq_of_perm ranked rearranged
  have sameBuild : other.build serve default before = provider.build serve default before := by
    simp only [build, sameOrder]
  have told : ∀ configuration, (other.failedSources default configuration).Perm
      (provider.failedSources default configuration) := failedSources_perm rearranged
  refine ⟨sameBuild, ?_, ?_, ?_, ?_, told⟩
  · rw [reload_eq_build.1, reload_eq_build.1, sameBuild]
  · rw [reload_eq_build.2, reload_eq_build.2, sameBuild]
  · rw [Bool.eq_iff_iff, start_eq_true_iff, start_eq_true_iff, sameBuild]
    refine exists_congr fun configuration => and_congr_right fun _ => ?_
    rw [← List.length_eq_zero_iff, (told configuration).length_eq, List.length_eq_zero_iff]
  · rw [requests_start, requests_start, sameBuild]

/-- Two sources of one directory, the one that wins in front. -/
def descendingSources : List PropertySource :=
  [{ directory := "app", name := some "high", ordinal := .int 2 },
   { directory := "app", name := some "low", ordinal := .int (-1) }]

/-- The law at these sources and the same the other way round, the lower one of which is down. -/
theorem actsAlike_of_perm_descending :
    let provider : Provider := { sources := descendingSources }
    let other : Provider := { sources := descendingSources.reverse }
    let before : Transcript Script := { server := [.error Script.exhausted,
      listingReply [[("key", .text "/app/a"), ("value", .text "1")]]] }
    PropertySource.AreRanked provider.sources ∧ other.sources.Perm provider.sources ∧
      other.sources ≠ provider.sources ∧
      (∃ configuration, (provider.build Script.serve (.ok Accessor.standard) before).1 =
        .ok configuration) ∧
      ActsAlike Script.serve (.ok Accessor.standard) before provider other := by
  intro provider other before
  have addressed : ∀ source ∈ provider.sources, source.IsAddressed (.ok Accessor.standard) := by
    simp only [provider, descendingSources, List.forall_mem_cons]
    exact ⟨isAddressed_app rfl rfl rfl, isAddressed_app rfl rfl rfl, by simp⟩
  have goesOn : ∀ reply ∈ before.server, Accessor.endingFault? reply = none := by
    simp only [before, List.forall_mem_cons]
    exact ⟨rfl, Accessor.endingFault?_ofDocument _ _, by simp⟩
  obtain ⟨_, _, _, configuration, -, -, -, -, -, built⟩ :=
    exists_build_of_script provider addressed goesOn rfl
  have ranked : PropertySource.AreRanked provider.sources := by
    refine ⟨?_, by decide⟩
    simp [provider, descendingSources]
  have rearranged : other.sources.Perm provider.sources := List.reverse_perm _
  exact ⟨ranked, rearranged, by decide, ⟨configuration, by rw [built]⟩,
    actsAlike_of_perm ranked rearranged Script.serve (.ok Accessor.standard) before⟩

end Provider

end Keyspace
