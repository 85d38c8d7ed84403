import Keyspace.Proofs.Provider.Building

/-!
# What a provider holds

A provider is asked for one thing after the other. `run_isLawful` says that it always holds the
configuration that was installed last: one that was given to it, or one that a build came to, be it
for a reload, a start or the first request for one. The configuration that is held is answered as it
is and nothing is sent for it, and whatever fails changes nothing.
-/

namespace Keyspace.Provider

variable {State : Type} {serve : Server State} {default : DefaultAccessor} {provider : Provider}
  {transcript : Transcript State} {configuration : Configuration}

/-- What a provider can be asked for. -/
inductive Action where
  | current
  | replace (candidate : Candidate)
  | reload
  | start
  | allProperties
deriving DecidableEq

/-- What an action gives, unless it fails. -/
inductive Result where
  | configuration (issued : Issued)
  | properties (properties : Entries Document)
  | replaced
  /-- A start tells whether no source reported an error. -/
  | started (complete : Bool)
deriving DecidableEq

namespace Action

/-- An action builds when it asks for a new configuration, or for any while none is held. -/
def builds (provider : Provider) : Action → Bool
  | .reload | .start => true
  | .current | .allProperties => provider.held.isNone
  | .replace _ => false

/-- What an action gives for a configuration. -/
def showing (default : DefaultAccessor) (provider : Provider) (issued : Issued) : Action → Result
  | .current | .reload => .configuration issued
  | .allProperties => .properties issued.configuration.properties
  | .start => .started (provider.failedSources default issued.configuration).isEmpty
  | .replace _ => .replaced

/-- What an action gives for the failure of a build: a start tells it, others fail. -/
def failing (failure : Failure) : Action → Except Failure Result
  | .start => .ok (.started false)
  | _ => .error failure

end Action

/-- Do what is asked for. -/
def act (serve : Server State) (default : DefaultAccessor) (provider : Provider)
    (transcript : Transcript State) :
    Action → Except Failure Result × Provider × Transcript State
  | .current =>
    let (result, next, after) := provider.current serve default transcript
    (result.map .configuration, next, after)
  | .replace candidate =>
    let (result, next, after) := provider.replace candidate transcript
    (result.map fun _ => .replaced, next, after)
  | .reload =>
    let (result, next, after) := provider.reload serve default transcript
    (result.map .configuration, next, after)
  | .start =>
    let (complete, next, after) := provider.start serve default transcript
    (.ok (.started complete), next, after)
  | .allProperties =>
    let (result, next, after) := provider.allProperties serve default transcript
    (result.map .properties, next, after)

/-- An action with what was there before it and what is there after it. -/
structure Step (State : Type) where
  action : Action
  provider : Provider
  transcript : Transcript State
  result : Except Failure Result
  next : Provider
  after : Transcript State

/-- The step of an action. -/
def step (serve : Server State) (default : DefaultAccessor) (provider : Provider)
    (transcript : Transcript State) (action : Action) : Step State where
  action := action
  provider := provider
  transcript := transcript
  result := (act serve default provider transcript action).1
  next := (act serve default provider transcript action).2.1
  after := (act serve default provider transcript action).2.2

/-- The steps of actions, one after the other. -/
def run (serve : Server State) (default : DefaultAccessor) :
    List Action → Provider → Transcript State → List (Step State)
  | [], _, _ => []
  | action :: later, provider, transcript =>
    let taken := step serve default provider transcript action
    taken :: run serve default later taken.next taken.after

namespace Step

/-- What a build comes to where a step begins. -/
def built (serve : Server State) (default : DefaultAccessor) (step : Step State) :
    Except Failure Configuration :=
  (step.provider.build serve default step.transcript).1

/-- The configuration that a step installs: one that it was given, or one that it built. -/
def installed (serve : Server State) (default : DefaultAccessor) (step : Step State) :
    Option Issued :=
  match step.action with
  | .replace (.configuration issued) => some issued
  | action =>
    if action.builds step.provider then
      (step.built serve default).toOption.map fun configuration =>
        ⟨step.provider.issued, configuration⟩
    else none

/-- What a step does that builds. -/
structure Rebuilds (serve : Server State) (default : DefaultAccessor) (step : Step State) :
    Prop where
  /-- A build fails only because a source cannot be listed. -/
  builds : ∃ between, Builds serve default step.provider.sources step.transcript
    (step.built serve default) between
  /-- A failure changes nothing, and another configuration is held otherwise. -/
  outcome : match step.built serve default with
    | .error failure => step.result = step.action.failing failure ∧ step.next = step.provider
    | .ok configuration =>
      step.result = .ok (step.action.showing default step.provider
        ⟨step.provider.issued, configuration⟩) ∧
      step.next.held = some ⟨step.provider.issued, configuration⟩ ∧
      step.next.issued = step.provider.issued + 1
  /-- Sources are asked by ordinal from the first one on, each with one request at most; and what
  the build comes to is decided by the replies to these, whatever has been held or done before. -/
  sent : ∃ ordered asked, asked <+: ordered ∧
    ((∀ source ∈ step.provider.sources, source.ordinal.IsComparable) →
      PropertySource.IsByOrdinal step.provider.sources ordered) ∧
    (∀ source ∈ asked, (source.requests default).length ≤ 1) ∧
    step.after.requests =
      step.transcript.requests ++ asked.flatMap (PropertySource.requests default) ∧
    ∀ {OtherState : Type} (other : Server OtherState) (otherProvider : Provider)
      (otherTranscript : Transcript OtherState),
      otherProvider.sources = step.provider.sources →
      other.replies otherTranscript.server (asked.flatMap (PropertySource.requests default)) =
          serve.replies step.transcript.server (asked.flatMap (PropertySource.requests default)) →
        (otherProvider.build other default otherTranscript).1 = step.built serve default

/-- What a step does. -/
structure IsLawful (serve : Server State) (default : DefaultAccessor) (step : Step State) :
    Prop where
  sources : step.next.sources = step.provider.sources
  held : step.next.held = (step.installed serve default).or step.provider.held
  /-- A configuration that is held is what is shown, and nothing is done for it. -/
  kept : ∀ issued, step.provider.held = some issued →
    step.action = .current ∨ step.action = .allProperties →
      step.result = .ok (step.action.showing default step.provider issued) ∧
        step.next = step.provider ∧ step.after = step.transcript
  replaced : ∀ issued, step.action = .replace (.configuration issued) →
    step.result = .ok .replaced ∧ step.next = step.provider.hold issued ∧
      step.after.requests = step.transcript.requests
  /-- What is no configuration is refused, and nothing changes. -/
  refused : ∀ document, step.action = .replace (.other document) →
    (∃ fault, step.result = .error (.fault fault)) ∧ step.next = step.provider ∧
      step.after = step.transcript
  rebuilt : step.action.builds step.provider = true → step.Rebuilds serve default

end Step

/-- An action whose build fails gives the failure, and leaves the provider as it was. -/
theorem act_of_error {action : Action} {failure : Failure} {between : Transcript State}
    (asks : action.builds provider = true)
    (built : provider.build serve default transcript = (.error failure, between)) :
    ∃ after, act serve default provider transcript action =
      (action.failing failure, provider, after) ∧ after.requests = between.requests := by
  have reloaded : provider.reload serve default transcript = (.error failure, provider, between) := by
    simp only [reload, built]
  cases action with
  | replace candidate => simp [Action.builds] at asks
  | reload => exact ⟨between, by simp only [act, reloaded]; rfl, rfl⟩
  | start =>
    exact ⟨between.note (.loadFailed failure.toFault), by simp only [act, start, reloaded]; rfl, rfl⟩
  | current =>
    have noneHeld : provider.held = none := by simpa [Action.builds] using asks
    exact ⟨between, by simp only [act, current, noneHeld, reloaded]; rfl, rfl⟩
  | allProperties =>
    have noneHeld : provider.held = none := by simpa [Action.builds] using asks
    exact ⟨between, by simp only [act, allProperties, current, noneHeld, reloaded]; rfl, rfl⟩

/-- An action whose build completes shows the configuration, which is held from then on. -/
theorem act_of_ok {action : Action} {between : Transcript State}
    (asks : action.builds provider = true)
    (built : provider.build serve default transcript = (.ok configuration, between)) :
    ∃ after, act serve default provider transcript action =
        (.ok (action.showing default provider ⟨provider.issued, configuration⟩),
          { provider with
            held := some ⟨provider.issued, configuration⟩
            issued := provider.issued + 1 }, after) ∧
      after.requests = between.requests := by
  have reloaded : provider.reload serve default transcript =
      (.ok ⟨provider.issued, configuration⟩, { provider with
        held := some ⟨provider.issued, configuration⟩
        issued := provider.issued + 1 }, between) := by
    simp only [reload, built, issue, hold]
  cases action with
  | replace candidate => simp [Action.builds] at asks
  | reload => exact ⟨between, by simp only [act, reloaded]; rfl, rfl⟩
  | start =>
    let failed := provider.failedSources default configuration
    have sameFailed : Provider.failedSources default { provider with
        held := some ⟨provider.issued, configuration⟩
        issued := provider.issued + 1 } configuration = failed := rfl
    simp only [act, start, reloaded, sameFailed, Action.showing]
    cases complete : failed.isEmpty with
    | true => exact ⟨between, rfl, rfl⟩
    | false => exact ⟨between.note (.partiallyLoaded failed), rfl, rfl⟩
  | current =>
    have noneHeld : provider.held = none := by simpa [Action.builds] using asks
    exact ⟨between, by simp only [act, current, noneHeld, reloaded]; rfl, rfl⟩
  | allProperties =>
    have noneHeld : provider.held = none := by simpa [Action.builds] using asks
    exact ⟨between, by simp only [act, allProperties, current, noneHeld, reloaded]; rfl, rfl⟩

/-- A step that builds installs what it builds. -/
theorem Step.installed_of_builds {step : Step State}
    (asks : step.action.builds step.provider = true) :
    step.installed serve default = (step.built serve default).toOption.map fun configuration =>
      ⟨step.provider.issued, configuration⟩ := by
  unfold installed
  split
  · next isReplace => simp [isReplace, Action.builds] at asks
  · rw [if_pos asks]

/-- A step that builds does what is said of it. -/
theorem rebuilds_step {action : Action} (asks : action.builds provider = true) :
    (step serve default provider transcript action).Rebuilds serve default := by
  obtain ⟨asked, isPrefix, requests, determined⟩ := build_replay serve default provider transcript
  have sent : (act serve default provider transcript action).2.2.requests =
      (provider.build serve default transcript).2.requests := by
    rcases built : provider.build serve default transcript with ⟨failure | configuration, between⟩
    · obtain ⟨after, acted, sameRequests⟩ := act_of_error asks built
      rw [acted, sameRequests]
    · obtain ⟨after, acted, sameRequests⟩ := act_of_ok asks built
      rw [acted, sameRequests]
  refine ⟨⟨_, build_cases serve default provider transcript⟩, ?_, _, asked, isPrefix,
    PropertySource.isByOrdinal_byOrdinal, fun source _ => (source.requests_spec default).1,
    sent.trans requests, fun other otherProvider otherTranscript =>
      determined other otherProvider otherTranscript⟩
  rcases built : provider.build serve default transcript with ⟨failure | configuration, between⟩
  · obtain ⟨after, acted, -⟩ := act_of_error asks built
    simp only [Step.built, step, built, acted, and_self]
  · obtain ⟨after, acted, -⟩ := act_of_ok asks built
    simp only [Step.built, step, built, acted, and_self]

/-- A step that builds does all that is said of steps. -/
theorem isLawful_of_builds {action : Action} (asks : action.builds provider = true) :
    (step serve default provider transcript action).IsLawful serve default := by
  have installed : (step serve default provider transcript action).installed serve default =
      ((step serve default provider transcript action).built serve default).toOption.map _ :=
    Step.installed_of_builds asks
  have settled : (step serve default provider transcript action).next.sources = provider.sources ∧
      (step serve default provider transcript action).next.held =
        ((step serve default provider transcript action).installed serve default).or
          provider.held := by
    rw [installed]
    rcases built : provider.build serve default transcript with ⟨failure | configuration, between⟩
    · obtain ⟨after, acted, -⟩ := act_of_error asks built
      simp [Step.built, step, built, acted, Except.toOption]
    · obtain ⟨after, acted, -⟩ := act_of_ok asks built
      simp [Step.built, step, built, acted, Except.toOption]
  have noReplace : ∀ candidate, action ≠ .replace candidate := by
    rintro candidate rfl
    simp [Action.builds] at asks
  have noneHeld : ∀ issued, provider.held = some issued →
      ¬ (action = .current ∨ action = .allProperties) := by
    rintro issued isHeld (rfl | rfl) <;> simp [Action.builds, isHeld] at asks
  exact ⟨settled.1, settled.2, fun issued isHeld asked => absurd asked (noneHeld issued isHeld),
    fun _ isReplace => absurd isReplace (noReplace _),
    fun _ isReplace => absurd isReplace (noReplace _), fun _ => rebuilds_step asks⟩

/-- A step that asks for what is held shows it, and does nothing else. -/
theorem isLawful_of_held {action : Action} {issued : Issued} (isHeld : provider.held = some issued)
    (asked : action = .current ∨ action = .allProperties) :
    (step serve default provider transcript action).IsLawful serve default := by
  have acted : act serve default provider transcript action =
      (.ok (action.showing default provider issued), provider, transcript) := by
    rcases asked with rfl | rfl <;>
    simp [act, allProperties, current, isHeld, Except.map, Action.showing]
  have asksNot : action.builds provider = false := by
    rcases asked with rfl | rfl <;> simp [Action.builds, isHeld]
  have noReplace : ∀ candidate, action ≠ .replace candidate := by
    rintro candidate rfl
    simp at asked
  have noneInstalled : (step serve default provider transcript action).installed serve default =
      none := by
    unfold Step.installed
    split
    · next isReplace => exact absurd isReplace (noReplace _)
    · exact if_neg (by simp [step, asksNot])
  refine ⟨by simp only [step, acted], ?_, ?_, fun _ isReplace => absurd isReplace (noReplace _),
    fun _ isReplace => absurd isReplace (noReplace _), by simp [step, asksNot]⟩
  · rw [noneInstalled]
    simp only [step, acted, Option.none_or]
  · intro other isOther _
    obtain rfl : issued = other := by simpa [step, isHeld] using isOther
    simp only [step, acted, and_self]

theorem act_replace_other (document : Document) :
    ∃ fault, act serve default provider transcript (.replace (.other document)) =
      (.error (.fault fault), provider, transcript) := by
  cases document <;> exact ⟨_, rfl⟩

/-- Every step does what is said of it. -/
theorem isLawful_step (serve : Server State) (default : DefaultAccessor) (provider : Provider)
    (transcript : Transcript State) (action : Action) :
    (step serve default provider transcript action).IsLawful serve default := by
  cases asks : action.builds provider with
  | true => exact isLawful_of_builds asks
  | false =>
    cases action with
    | reload => simp [Action.builds] at asks
    | start => simp [Action.builds] at asks
    | current =>
      obtain ⟨issued, isHeld⟩ : ∃ issued, provider.held = some issued := by
        simpa [Action.builds, Option.isSome_iff_exists, ← Option.isSome_iff_ne_none] using asks
      exact isLawful_of_held isHeld (.inl rfl)
    | allProperties =>
      obtain ⟨issued, isHeld⟩ : ∃ issued, provider.held = some issued := by
        simpa [Action.builds, Option.isSome_iff_exists, ← Option.isSome_iff_ne_none] using asks
      exact isLawful_of_held isHeld (.inr rfl)
    | replace candidate =>
      cases candidate with
      | configuration issued =>
        exact ⟨rfl, rfl, by simp [step], by simp [step, act, replace, Transcript.note, Except.map],
          by simp [step], by simp [step, asks]⟩
      | other document =>
        obtain ⟨fault, acted⟩ :
            ∃ fault, act serve default provider transcript (.replace (.other document)) =
              (.error (.fault fault), provider, transcript) := act_replace_other document
        refine ⟨by simp only [step, acted], ?_, by simp [step], by simp [step], ?_, by
          simp [step, asks]⟩
        · simp [step, acted, Step.installed, asks]
        · exact fun _ _ => ⟨⟨fault, by simp only [step, acted]⟩, by simp only [step, acted, and_self]⟩

/-- In a run that begins with a provider, what a step finds held is the configuration that was
installed last before it, or else the one that was held in the beginning. -/
theorem held_of_run (actions : List Action) {earlier later : List (Step State)}
    {taken : Step State}
    (isRun : run serve default actions provider transcript = earlier ++ taken :: later) :
    taken.provider.held =
      ((earlier.filterMap (Step.installed serve default)).getLast?).or provider.held := by
  induction actions generalizing provider transcript earlier with
  | nil => simp [run] at isRun
  | cons action rest inductionHypothesis =>
    cases earlier with
    | nil =>
      obtain ⟨rfl, -⟩ := List.cons.inj isRun
      rfl
    | cons first between =>
      obtain ⟨rfl, onward⟩ := List.cons.inj isRun
      have held := (isLawful_step serve default provider transcript action).held
      rw [inductionHypothesis onward, held, List.filterMap_cons, ← Option.or_assoc]
      congr 1
      cases Step.installed serve default (step serve default provider transcript action) with
      | none => simp
      | some issued =>
        rw [List.getLast?_cons]
        cases (between.filterMap (Step.installed serve default)).getLast? <;> rfl

/-- Every step of a run does what is said of it. -/
theorem isLawful_of_mem_run (actions : List Action) :
    ∀ taken ∈ run serve default actions provider transcript, taken.IsLawful serve default := by
  induction actions generalizing provider transcript with
  | nil => simp [run]
  | cons action later inductionHypothesis =>
    intro taken isTaken
    rcases List.mem_cons.1 isTaken with rfl | isLater
    · exact isLawful_step serve default provider transcript action
    · exact inductionHypothesis taken isLater

/-- What holds of every run of a new provider. Every step does what is said of it, and the
configuration that it finds held is the one that was installed last before it. -/
theorem run_isLawful (serve : Server State) (default : DefaultAccessor)
    (sources : List PropertySource) (transcript : Transcript State) (actions : List Action) :
    (∀ step ∈ run serve default actions { sources } transcript, step.IsLawful serve default) ∧
    ∀ earlier step later, run serve default actions { sources } transcript =
        earlier ++ step :: later →
      step.provider.held = (earlier.filterMap (Step.installed serve default)).getLast? := by
  refine ⟨isLawful_of_mem_run actions, ?_⟩
  intro earlier step later isRun
  rw [held_of_run actions isRun, Option.or_none]

end Keyspace.Provider
