import Keyspace.Proofs.Accessor.Replay
import Keyspace.Proofs.Number.Order
import Keyspace.PropertySource

/-!
# Property sources in order

Sources are put in order by inserting one after the other. `isByOrdinal_byOrdinal` says what comes
of it, without the insertions: the same sources, by ascending ordinal, those of one ordinal as they
were given. What a source sends does not depend on the server, and what its listing comes to depends
only on the replies (`properties_eq_of_replies`).
-/

namespace Keyspace

namespace PropertySource

/-- A list holds given sources by ordinal. -/
structure IsByOrdinal (sources ordered : List PropertySource) : Prop where
  /-- No source is lost, and none is added. -/
  perm : ordered.Perm sources
  ascending : ordered.Pairwise fun earlier later => earlier.ordinal.le later.ordinal = true
  /-- Sources of one ordinal keep their order. -/
  stable : ∀ ordinal : Number, ordered.filter (fun source => source.ordinal.same ordinal) =
    sources.filter fun source => source.ordinal.same ordinal

/-- A source is put where the ordinals keep ascending. -/
theorem ascending_insertByOrdinal {source : PropertySource} {sources : List PropertySource}
    (comparable : ∀ other ∈ source :: sources, other.ordinal.IsComparable)
    (ascending : sources.Pairwise fun earlier later => earlier.ordinal.le later.ordinal = true) :
    (insertByOrdinal source sources).Pairwise fun earlier later =>
      earlier.ordinal.le later.ordinal = true := by
  induction sources with
  | nil => simp [insertByOrdinal]
  | cons other later inductionHypothesis =>
    obtain ⟨below, ascendingLater⟩ := List.pairwise_cons.1 ascending
    simp only [insertByOrdinal]
    split
    · next before =>
      refine List.pairwise_cons.2 ⟨fun third isThird => ?_, ascending⟩
      rcases List.mem_cons.1 isThird with rfl | inLater
      · exact before
      · exact Number.le_trans before (below third inLater)
    · next notBefore =>
      have after : other.ordinal.le source.ordinal = true :=
        (Number.le_total (comparable source (by simp)) (comparable other (by simp))).resolve_left
          notBefore
      refine List.pairwise_cons.2 ⟨fun third isThird => ?_, inductionHypothesis ?_ ascendingLater⟩
      · rcases List.mem_cons.1 ((insertByOrdinal_perm source later).subset isThird) with
          rfl | inLater
        · exact after
        · exact below third inLater
      · intro third isThird
        rcases List.mem_cons.1 isThird with rfl | inLater
        · exact comparable third (by simp)
        · exact comparable third (by simp [inLater])

/-- A source is put in front of all sources of its own ordinal. -/
theorem filter_insertByOrdinal (source : PropertySource) (sources : List PropertySource)
    (ordinal : Number) :
    (insertByOrdinal source sources).filter (fun other => other.ordinal.same ordinal) =
      (source :: sources).filter fun other => other.ordinal.same ordinal := by
  induction sources with
  | nil => rfl
  | cons other later inductionHypothesis =>
    simp only [insertByOrdinal]
    split
    · rfl
    · next notBefore =>
      -- The source passes the other one, so that not both of them have the ordinal.
      have apart : ¬ (source.ordinal.same ordinal = true ∧ other.ordinal.same ordinal = true) :=
        fun both => notBefore (Number.le_of_same_of_same both.1 both.2)
      rw [List.filter_cons, inductionHypothesis]
      by_cases same : source.ordinal.same ordinal = true
      · have otherApart : ¬ other.ordinal.same ordinal = true := fun otherSame =>
          apart ⟨same, otherSame⟩
        simp [same, otherApart]
      · simp [same, List.filter_cons]

/-- Sources whose ordinals can be compared are put in order by ordinal. -/
theorem isByOrdinal_byOrdinal {sources : List PropertySource}
    (comparable : ∀ source ∈ sources, source.ordinal.IsComparable) :
    IsByOrdinal sources (byOrdinal sources) where
  perm := byOrdinal_perm sources
  ascending := by
    induction sources with
    | nil => exact .nil
    | cons source later inductionHypothesis =>
      refine ascending_insertByOrdinal (fun other isOther => ?_)
        (inductionHypothesis fun other isOther => comparable other (by simp [isOther]))
      exact comparable other ((List.Perm.cons source (byOrdinal_perm later)).subset isOther)
  stable := by
    intro ordinal
    clear comparable
    induction sources with
    | nil => rfl
    | cons source later inductionHypothesis =>
      have put := filter_insertByOrdinal source (byOrdinal later) ordinal
      rw [List.filter_cons, inductionHypothesis] at put
      rwa [List.filter_cons]

variable {State : Type} {serve : Server State} {default : DefaultAccessor}
  {source : PropertySource} {before : Transcript State}

/-- A source whose accessor is known has a name. -/
theorem exists_displayName {accessor : Accessor} (resolved : source.resolve default = .ok accessor) :
    ∃ name, source.displayName default = .ok name := by
  unfold displayName
  split
  · exact ⟨_, rfl⟩
  · exact ⟨_, by rw [resolved]; rfl⟩

/-- A source can be asked when its client is open, its accessor is known and the address of its
directory is a URL. -/
def IsAddressed (default : DefaultAccessor) (source : PropertySource) : Prop :=
  source.isOpen = true ∧ ∃ accessor url, source.resolve default = .ok accessor ∧
    Accessor.urlOf (accessor.keyAddress source.directory) (Operation.readTree true).query? =
      .ok url

/-- The requests for the listing of a source, known before they are sent. -/
def requests (default : DefaultAccessor) (source : PropertySource) : List Request :=
  match source.resolve default with
  | .error _ => []
  | .ok accessor => accessor.requestsOf source.isOpen source.listing

/-- A source sends at most one request, which asks for the whole tree below its directory. -/
theorem requests_spec (default : DefaultAccessor) (source : PropertySource) :
    (source.requests default).length ≤ 1 ∧
      ∀ request ∈ source.requests default, request.method = .get ∧
        ∃ accessor, source.resolve default = .ok accessor ∧
          Accessor.urlOf (accessor.keyAddress source.directory) (Operation.readTree true).query? =
            .ok request.url := by
  unfold requests
  split
  · simp
  · next accessor resolved =>
    obtain ⟨atMostOne, each⟩ := accessor.requestsOf_spec source.isOpen source.listing
    refine ⟨atMostOne, fun request isRequest => ?_⟩
    obtain ⟨isMethod, key, isKey, isUrl⟩ := each request isRequest
    obtain rfl : source.directory = key := by simpa [listing] using isKey
    exact ⟨isMethod, accessor, resolved, isUrl⟩

/-- Listing a source sends its requests, and leaves the server where they leave it. -/
theorem sent_properties (serve : Server State) (default : DefaultAccessor)
    (source : PropertySource) (before : Transcript State) :
    (source.properties serve default before).2.requests =
        before.requests ++ source.requests default ∧
      (source.properties serve default before).2.server =
        serve.after before.server (source.requests default) := by
  cases resolved : source.resolve default with
  | error failure => simp [properties, requests, resolved, Server.after]
  | ok accessor =>
    have performed : (accessor.perform serve source.isOpen source.listing before).2.requests =
          before.requests ++ accessor.requestsOf source.isOpen source.listing ∧
        (accessor.perform serve source.isOpen source.listing before).2.server =
          serve.after before.server (accessor.requestsOf source.isOpen source.listing) :=
      ⟨Accessor.requests_perform, Accessor.server_perform accessor source.listing⟩
    simp only [properties, requests, resolved]
    split
    · next failure between isPerformed => rwa [isPerformed] at performed
    · next outcome between isPerformed =>
      rw [isPerformed] at performed
      split <;> exact performed

/-- Listing a source comes to the same with every server that replies the same. -/
theorem properties_eq_of_replies {OtherState : Type} {other : Server OtherState}
    {otherBefore : Transcript OtherState}
    (same : other.replies otherBefore.server (source.requests default) =
      serve.replies before.server (source.requests default)) :
    (source.properties other default otherBefore).1 =
      (source.properties serve default before).1 := by
  cases resolved : source.resolve default with
  | error failure => simp [properties, resolved]
  | ok accessor =>
    simp only [requests, resolved] at same
    have performed := Accessor.perform_eq_of_replies accessor source.listing same
    simp only [properties, resolved]
    rcases isPerformed : accessor.perform serve source.isOpen source.listing before with
      ⟨_ | outcome, between⟩ <;>
    rcases isOther : accessor.perform other source.isOpen source.listing otherBefore with
      ⟨_ | sameOutcome, _⟩ <;>
    simp only [isPerformed, isOther, reduceCtorEq, Except.error.injEq, Except.ok.injEq]
      at performed ⊢
    · exact performed
    · subst performed
      cases source.failure? default sameOutcome.toMap <;> rfl

/-- The same with the transcript after it. -/
theorem exists_replay {OtherState : Type} {other : Server OtherState}
    {otherBefore : Transcript OtherState}
    (same : other.replies otherBefore.server (source.requests default) =
      serve.replies before.server (source.requests default)) :
    ∃ otherAfter, source.properties other default otherBefore =
        ((source.properties serve default before).1, otherAfter) ∧
      otherAfter.server = other.after otherBefore.server (source.requests default) :=
  ⟨_, by rw [← properties_eq_of_replies same],
    (sent_properties other default source otherBefore).2⟩

end PropertySource

end Keyspace
