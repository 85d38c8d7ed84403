import Keyspace.Proofs.Visit
import Keyspace.Provider

/-!
# Building configurations

A build visits its sources by ordinal. `build_cases` says what can come of it: all sources were
visited, and their flat maps are merged in that order; or one source could not be listed after all
sources before it were, and its failure is that of the build. `build_replay` says what a build
sends, and that its result depends on the server only through the replies to that.
-/

namespace Keyspace

variable {State : Type} {serve : Server State} {default : DefaultAccessor}
  {before between after : Transcript State}

/-- Sources are visited one after the other, from one transcript to another. -/
inductive Visits (serve : Server State) (default : DefaultAccessor) :
    Transcript State → List Visit → Transcript State → Prop where
  | none {transcript : Transcript State} : Visits serve default transcript [] transcript
  | next {before between after : Transcript State} {visit : Visit} {later : List Visit}
      (leads : visit.Leads serve default before between)
      (onward : Visits serve default between later after) :
      Visits serve default before (visit :: later) after

namespace Visits

variable {visited : List Visit}

/-- Every one of several visits takes place. -/
theorem exists_leads (visits : Visits serve default before visited after) :
    ∀ visit ∈ visited, ∃ earlier later, visit.Leads serve default earlier later := by
  induction visits with
  | none => simp
  | next leads _ inductionHypothesis =>
    intro visit isVisit
    rcases List.mem_cons.1 isVisit with rfl | inLater
    · exact ⟨_, _, leads⟩
    · exact inductionHypothesis visit inLater

/-- Sources that have been visited have names. -/
theorem exists_names (visits : Visits serve default before visited after) :
    ∃ names, (visited.map Visit.source).mapM (PropertySource.displayName default) = .ok names := by
  induction visits with
  | none => exact ⟨[], rfl⟩
  | next leads _ inductionHypothesis =>
    obtain ⟨name, isName⟩ := PropertySource.exists_displayName leads.resolved
    obtain ⟨names, areNames⟩ := inductionHypothesis
    exact ⟨name :: names, by
      rw [List.map_cons, List.mapM_cons, isName, areNames]
      rfl⟩

/-- Gathering goes on after visits with the flat maps of these merged. -/
theorem gather_append (visits : Visits serve default before visited after)
    (later : List PropertySource) (gathered : Entries String) :
    Provider.gather serve default (visited.map Visit.source ++ later) gathered before =
      Provider.gather serve default later
        ((visited.map fun visit => visit.outcome.toMap).foldl Entries.merge gathered) after := by
  induction visits generalizing gathered with
  | none => rfl
  | next leads _ inductionHypothesis =>
    rw [List.map_cons, List.cons_append, Provider.gather, leads.listed]
    exact inductionHypothesis (gathered.merge _)

/-- Sources that can be asked are visited with the replies of a script, unless one of these ends an
operation. -/
theorem exists_of_script {sources : List PropertySource} {replies : List Reply}
    (addressed : ∀ source ∈ sources, source.IsAddressed default)
    (goesOn : ∀ reply ∈ replies, Accessor.endingFault? reply = Option.none)
    (enough : replies.length = sources.length) {before : Transcript Script}
    (isScript : before.server = replies) :
    ∃ visited after, Visits Script.serve default before visited after ∧
      visited.map Visit.source = sources ∧ visited.map Visit.reply = replies := by
  induction sources generalizing replies before with
  | nil =>
    obtain rfl : replies = [] := List.length_eq_zero_iff.1 enough
    exact ⟨[], before, .none, rfl, rfl⟩
  | cons source later inductionHypothesis =>
    obtain ⟨reply, rest, rfl⟩ := List.exists_cons_of_length_eq_add_one enough
    have isNext : ∀ request, Script.serve before.server request = (reply, rest) := by
      intro request
      rw [isScript, Script.serve]
    have nextGoesOn : ∀ request,
        Accessor.endingFault? (Script.serve before.server request).1 = Option.none := by
      intro request
      rw [isNext]
      exact goesOn reply (by simp)
    obtain ⟨visit, request, between, requests, rfl, isReply, leads⟩ :=
      Visit.exists_leads_of_goesOn (addressed source (by simp)) nextGoesOn
    have isRest : between.server = rest := by
      have server := (PropertySource.sent_properties Script.serve default visit.source before).2
      rw [leads.listed, requests] at server
      simpa [Server.after, isNext] using server
    obtain ⟨visited, after, visits, areSources, areReplies⟩ := inductionHypothesis
      (fun other isLater => addressed other (by simp [isLater]))
      (fun later isLater => goesOn later (by simp [isLater])) (Nat.succ.inj enough) isRest
    refine ⟨visit :: visited, after, .next leads visits, by rw [List.map_cons, areSources], ?_⟩
    rw [List.map_cons, areReplies, isReply, isNext]

end Visits

namespace Provider

/-- Sources are all visited, or one after the visited ones fails to be listed. -/
theorem exists_visits (serve : Server State) (default : DefaultAccessor)
    (sources : List PropertySource) (before : Transcript State) :
    ∃ visited between, Visits serve default before visited between ∧
      (sources = visited.map Visit.source ∨
        ∃ failing later failure after, sources = visited.map Visit.source ++ failing :: later ∧
          failing.properties serve default between = (.error failure, after)) := by
  induction sources generalizing before with
  | nil => exact ⟨[], before, .none, .inl rfl⟩
  | cons source later inductionHypothesis =>
    rcases isListed : source.properties serve default before with ⟨failure | listed, between⟩
    · exact ⟨[], before, .none, .inr ⟨source, later, failure, between, rfl, isListed⟩⟩
    · obtain ⟨visit, rfl, -, leads⟩ := Visit.exists_leads isListed
      obtain ⟨visited, after, visits, allOrFailing⟩ := inductionHypothesis between
      refine ⟨visit :: visited, after, .next leads visits, ?_⟩
      rcases allOrFailing with rfl | ⟨failing, rest, failure, last, rfl, isFailing⟩
      · exact .inl rfl
      · exact .inr ⟨failing, rest, failure, last, rfl, isFailing⟩

/-- What a build comes to, and the transcript after it. -/
inductive Builds (serve : Server State) (default : DefaultAccessor)
    (sources : List PropertySource) (before : Transcript State) :
    Except Failure Configuration → Transcript State → Prop where
  /-- All sources were visited, by ordinal. -/
  | completed {visited : List Visit} {between : Transcript State} {names : List String}
      {configuration : Configuration}
      (ordered : visited.map Visit.source = PropertySource.byOrdinal sources)
      (visits : Visits serve default before visited between)
      (areNames : (visited.map Visit.source).mapM (PropertySource.displayName default) = .ok names)
      (isMerged : configuration = .ofTexts
        ((visited.map fun visit => visit.outcome.toMap).foldl Entries.merge .empty) names) :
      Builds serve default sources before (.ok configuration)
        (between.note (.built names configuration.properties.size))
  /-- A source could not be listed after those before it were visited. -/
  | failed {visited : List Visit} {between after : Transcript State} {failing : PropertySource}
      {later : List PropertySource} {failure : Failure}
      (ordered : visited.map Visit.source ++ failing :: later = PropertySource.byOrdinal sources)
      (visits : Visits serve default before visited between)
      (isFailing : failing.properties serve default between = (.error failure, after)) :
      Builds serve default sources before (.error failure) after

variable {provider : Provider}

/-- A build that visits all sources completes. -/
theorem exists_build_of_visits {visited : List Visit}
    (ordered : visited.map Visit.source = PropertySource.byOrdinal provider.sources)
    (visits : Visits serve default before visited between) :
    ∃ names configuration,
      (visited.map Visit.source).mapM (PropertySource.displayName default) = .ok names ∧
      configuration = .ofTexts
        ((visited.map fun visit => visit.outcome.toMap).foldl Entries.merge .empty) names ∧
      provider.build serve default before =
        (.ok configuration, between.note (.built names configuration.properties.size)) := by
  obtain ⟨names, areNames⟩ := visits.exists_names
  have gathered := visits.gather_append [] .empty
  rw [List.append_nil] at gathered
  exact ⟨names, _, areNames, rfl, by simp only [build, ← ordered, gathered, gather, areNames]⟩

/-- A build completes when every source can be asked and no reply ends an operation. -/
theorem exists_build_of_script (provider : Provider) {replies : List Reply}
    (addressed : ∀ source ∈ provider.sources, source.IsAddressed default)
    (goesOn : ∀ reply ∈ replies, Accessor.endingFault? reply = Option.none)
    (enough : replies.length = provider.sources.length) :
    ∃ visited between names configuration,
      Visits Script.serve default { server := replies } visited between ∧
      visited.map Visit.source = PropertySource.byOrdinal provider.sources ∧
      visited.map Visit.reply = replies ∧
      (visited.map Visit.source).mapM (PropertySource.displayName default) = .ok names ∧
      configuration = .ofTexts
        ((visited.map fun visit => visit.outcome.toMap).foldl Entries.merge .empty) names ∧
      provider.build Script.serve default { server := replies } =
        (.ok configuration, between.note (.built names configuration.properties.size)) := by
  have ordered := PropertySource.byOrdinal_perm provider.sources
  have isScript : ({ server := replies } : Transcript Script).server = replies := rfl
  obtain ⟨visited, between, visits, areSources, areReplies⟩ := Visits.exists_of_script
    (fun source isSource => addressed source (ordered.subset isSource)) goesOn
    (enough.trans ordered.length_eq.symm) isScript
  obtain ⟨names, configuration, areNames, isMerged, built⟩ :=
    exists_build_of_visits areSources visits
  exact ⟨visited, between, names, configuration, visits, areSources, areReplies, areNames, isMerged,
    built⟩

/-- A build comes to one of these. -/
theorem build_cases (serve : Server State) (default : DefaultAccessor) (provider : Provider)
    (before : Transcript State) :
    Builds serve default provider.sources before (provider.build serve default before).1
      (provider.build serve default before).2 := by
  obtain ⟨visited, between, visits, all | ⟨failing, later, failure, after, ordered, isFailing⟩⟩ :=
    exists_visits serve default (PropertySource.byOrdinal provider.sources) before
  · obtain ⟨names, configuration, areNames, isMerged, built⟩ :=
      exists_build_of_visits all.symm visits
    rw [built]
    exact .completed all.symm visits areNames isMerged
  · have gathered := visits.gather_append (failing :: later) .empty
    simp only [gather, isFailing] at gathered
    simp only [build, ordered, gathered]
    exact .failed ordered.symm visits isFailing

/-- What gathering sends, and that its result depends on the server only through the replies. -/
theorem gather_replay (serve : Server State) (default : DefaultAccessor)
    (sources : List PropertySource) (gathered : Entries String) (before : Transcript State) :
    ∃ asked, asked <+: sources ∧
      (gather serve default sources gathered before).2.requests =
        before.requests ++ asked.flatMap (PropertySource.requests default) ∧
      ∀ {OtherState : Type} (other : Server OtherState) (otherBefore : Transcript OtherState),
        other.replies otherBefore.server (asked.flatMap (PropertySource.requests default)) =
            serve.replies before.server (asked.flatMap (PropertySource.requests default)) →
          (gather other default sources gathered otherBefore).1 =
            (gather serve default sources gathered before).1 := by
  induction sources generalizing gathered before with
  | nil => exact ⟨[], List.prefix_rfl, by simp [gather], fun _ _ _ => rfl⟩
  | cons source later inductionHypothesis =>
    have sent := PropertySource.sent_properties serve default source before
    rcases isListed : source.properties serve default before with ⟨failure | listed, between⟩
    · rw [isListed] at sent
      obtain ⟨requests, -⟩ : between.requests = before.requests ++ source.requests default ∧ _ :=
        sent
      refine ⟨[source], by simp, by simpa [gather, isListed] using requests, ?_⟩
      intro OtherState other otherBefore same
      rw [List.flatMap_singleton] at same
      obtain ⟨otherBetween, isOther, -⟩ := PropertySource.exists_replay same
      rw [isListed] at isOther
      simp [gather, isListed, isOther]
    · rw [isListed] at sent
      obtain ⟨requests, server⟩ : between.requests = before.requests ++ source.requests default ∧
          between.server = serve.after before.server (source.requests default) := sent
      obtain ⟨asked, isPrefix, laterRequests, replay⟩ :=
        inductionHypothesis (gathered.merge listed) between
      refine ⟨source :: asked, List.cons_prefix_cons.2 ⟨rfl, isPrefix⟩, ?_, ?_⟩
      · simp [gather, isListed, laterRequests, requests]
      · intro OtherState other otherBefore same
        rw [List.flatMap_cons, Server.replies_append_eq_iff] at same
        obtain ⟨otherBetween, isOther, otherServer⟩ := PropertySource.exists_replay same.1
        rw [isListed] at isOther
        have sameLater := same.2
        rw [← server, ← otherServer] at sameLater
        simpa [gather, isListed, isOther] using replay other otherBetween sameLater

/-- What a build sends: the requests of sources from the first one on, by ordinal. Its result depends
on the server only through the replies to them. -/
theorem build_replay (serve : Server State) (default : DefaultAccessor) (provider : Provider)
    (before : Transcript State) :
    ∃ asked, asked <+: PropertySource.byOrdinal provider.sources ∧
      (provider.build serve default before).2.requests =
        before.requests ++ asked.flatMap (PropertySource.requests default) ∧
      ∀ {OtherState : Type} (other : Server OtherState) (otherProvider : Provider)
        (otherBefore : Transcript OtherState), otherProvider.sources = provider.sources →
        other.replies otherBefore.server (asked.flatMap (PropertySource.requests default)) =
            serve.replies before.server (asked.flatMap (PropertySource.requests default)) →
          (otherProvider.build other default otherBefore).1 =
            (provider.build serve default before).1 := by
  obtain ⟨asked, isPrefix, requests, replay⟩ :=
    gather_replay serve default (PropertySource.byOrdinal provider.sources) .empty before
  refine ⟨asked, isPrefix, ?_, ?_⟩
  · rcases isGathered : gather serve default (PropertySource.byOrdinal provider.sources) .empty
      before with ⟨failure | gathered, between⟩ <;>
    simp only [isGathered] at requests <;>
    simp only [build, isGathered]
    · exact requests
    · split <;> exact requests
  · intro OtherState other otherProvider otherBefore sameSources same
    have sameGathered := replay other otherBefore same
    rcases isGathered : gather serve default (PropertySource.byOrdinal provider.sources) .empty
      before with ⟨failure | gathered, between⟩ <;>
    rcases isOther : gather other default (PropertySource.byOrdinal provider.sources) .empty
      otherBefore with ⟨otherFailure | otherGathered, otherBetween⟩ <;>
    simp only [isGathered, isOther, reduceCtorEq, Except.error.injEq, Except.ok.injEq]
      at sameGathered <;>
    simp only [build, sameSources, isGathered, isOther, sameGathered]
    split <;> rfl

end Provider

end Keyspace
