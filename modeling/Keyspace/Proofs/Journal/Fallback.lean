import Keyspace.Proofs.Journal.Setup

/-!
# Levels that are no levels

A text that means no level is to give the level that goes without saying, so that setting the journal up
never fails because of one. `run_falls_back_iff` says when this holds: the two names of layouts are found
where levels are looked for, and refused. The level of the library is set first, so that nothing has been
done when it is refused; but when that of the transport is, the root has been set up already, and the
other loggers have not, `exists_half_set_up`.
-/

namespace Keyspace.Journal.Setup

variable {setup : Setup}

/-- The levels that loggers have after setting up. A further logger has the level of the library, also
where it is a logger of the transport. -/
structure GivesLevels (setup : Setup) (level transportLevel : Int) (after : Routing) : Prop where
  root : after.root.level = level
  library : (after.logger Event.libraryLogger).level = level
  further : ∀ name ∈ setup.further, (after.logger name).level = level
  transport : ∀ name, name = Event.transportLogger ∨ name = connectionLogger →
    name ∉ setup.further → (after.logger name).level = transportLevel

/-- Carrying a plan out gives loggers its levels. -/
theorem givesLevels_apply (environment : Environment) (setup : Setup) (routing : Routing) :
    setup.GivesLevels (setup.plan environment).level (setup.plan environment).transportLevel
      ((setup.plan environment).apply routing) := by
  generalize isPlan : setup.plan environment = plan
  have sameFurther : setup.further = plan.further := by rw [← isPlan]; rfl
  obtain ⟨passesOn, isRoot⟩ := plan.root_apply routing
  -- The level of a logger that is named, be it the root or another one.
  have given : ∀ name, plan.Names name →
      ((plan.apply routing).logger name).level =
        if Routing.isRoot name then plan.level else plan.levelOf name := by
    intro name isNamed
    cases isRootName : Routing.isRoot name with
    | true => simp [Routing.logger, isRootName, isRoot]
    | false => simp [plan.logger_apply_of_names routing isRootName isNamed, Plan.configured]
  refine ⟨by rw [isRoot], ?_, ?_, ?_⟩
  · rw [given _ (.inr (.inr (.inr (.inl rfl))))]
    simp [Plan.levelOf, Routing.isRoot, Event.libraryLogger, Event.transportLogger,
      connectionLogger, Record.rootName]
  · intro name isFurther
    rw [sameFurther] at isFurther
    rw [given _ (.inr (.inr (.inr (.inr isFurther))))]
    simp [Plan.levelOf, isFurther]
  · rintro name isTransport notFurther
    rw [sameFurther] at notFurther
    have notRoot : Routing.isRoot name = false := by
      rcases isTransport with rfl | rfl <;> decide
    rw [given _ (isTransport.elim (fun is => .inr (.inl is)) fun is => .inr (.inr (.inl is))),
      notRoot]
    simp [Plan.levelOf, isTransport, notFurther]

/-- The level of the transport is read from a text, unless that is empty. -/
theorem transportDocument_of_text {name : String} (isText : setup.transportLevel = .text name) :
    setup.transportDocument = .text (if name = "" then "WARNING" else name) := by
  by_cases empty : name = "" <;>
    simp [transportDocument, orElse, isText, Document.isTruthy, empty]

/-- An empty text is read as the level of warnings, which is also what it falls back to. -/
theorem levelNamed_warning (name : String) :
    levelNamed Level.warning (if name = "" then "WARNING" else name) =
        levelNamed Level.warning name ∧
      (NamesLayout (if name = "" then "WARNING" else name) ↔ NamesLayout name) := by
  by_cases empty : name = ""
  · subst empty
    exact ⟨by decide +kernel, by decide +kernel⟩
  · simp [empty]

theorem chooseBy_text (default : Int) (name : String) :
    chooseBy default (.text name) = .ok (choose default name) := rfl

/-- For which texts setting up falls back to the levels that go without saying. It completes exactly when
neither text is the name of a layout, and then all loggers have the levels that the texts mean, or the
usual ones where they mean none. When the level of the library is refused nothing has been done; when
that of the transport is, the root has been set up and no other logger. -/
theorem run_falls_back_iff {levelName transportName : String}
    (isLevel : setup.level = .text levelName)
    (isTransport : setup.transportLevel = .text transportName)
    (areNamed : ∃ documents, furtherNames setup.furtherLoggers = .ok documents ∧
      ∀ document ∈ documents, ∃ name, nameOf document = .ok name)
    (environment : Environment) (created : Document) (routing : Routing) :
    ∃ result after, setup.run environment created routing = (result, after) ∧
      ((∃ lines, result = .ok lines) ↔
        ¬ NamesLayout levelName ∧ ¬ NamesLayout transportName) ∧
      (¬ NamesLayout levelName → ¬ NamesLayout transportName →
        setup.GivesLevels (levelNamed Level.info levelName)
          (levelNamed Level.warning transportName) after) ∧
      (NamesLayout levelName → after = routing) ∧
      (¬ NamesLayout levelName → NamesLayout transportName →
        after = routing.update ""
          (configure (setup.context environment) (levelNamed Level.info levelName))) := by
  obtain ⟨sameTransport, sameLayout⟩ := levelNamed_warning transportName
  have isDocument := transportDocument_of_text isTransport
  have areLevels : setup.levels = .ok (choose Level.info levelName, choose Level.warning
      (if transportName = "" then "WARNING" else transportName)) := by
    rw [transportDocument] at isDocument
    simp only [levels, isLevel, isDocument, chooseBy_text, bind, Except.bind, pure, Except.pure]
  by_cases namesLayout : NamesLayout levelName
  · obtain ⟨fault, isFault⟩ := choose_of_namesLayout Level.info namesLayout
    refine ⟨.error fault, routing, ?_, by simp [namesLayout], ?_, fun _ => rfl, ?_⟩
    · simp only [run, areLevels, isFault]
    · exact fun noLayout => absurd namesLayout noLayout
    · exact fun noLayout => absurd namesLayout noLayout
  by_cases transportNamesLayout : NamesLayout transportName
  · -- The root has its level by now, and the first logger below it is one of the transport.
    obtain ⟨documents, areListed, -⟩ := areNamed
    obtain ⟨fault, isFault⟩ := choose_of_namesLayout Level.warning
      (sameLayout.2 transportNamesLayout)
    have isChosen := choose_of_not_namesLayout Level.info namesLayout
    refine ⟨.error fault, _, ?_, by simp [transportNamesLayout],
      fun _ noLayout => absurd transportNamesLayout noLayout,
      fun isLayout => absurd isLayout namesLayout, fun _ _ => rfl⟩
    simp only [run, areLevels, isChosen, isFault, configureBelow, areListed, List.cons_append,
      configureAll, nameOf_text]
  · have isSound : setup.IsSound := by
      refine ⟨?_, ?_, areNamed⟩
      · rw [isLevel]
        exact ⟨rfl, namesLayout⟩
      · rw [isDocument]
        exact ⟨rfl, mt sameLayout.1 transportNamesLayout⟩
    obtain ⟨lines, areLines⟩ := exists_log_notice ((setup.plan environment).apply routing) created
      (setup.plan environment).level (setup.plan environment).transportLevel
    have isRun := run_of_isSound isSound environment created routing
    rw [areLines] at isRun
    have gives := givesLevels_apply environment setup routing
    have isPlannedLevel : (setup.plan environment).level = levelNamed Level.info levelName := by
      simp [plan, isLevel]
    have isPlannedTransport : (setup.plan environment).transportLevel =
        levelNamed Level.warning transportName := by
      simp [plan, isDocument, sameTransport]
    rw [isPlannedLevel, isPlannedTransport] at gives
    exact ⟨_, _, isRun, by simp [namesLayout, transportNamesLayout], fun _ _ => gives,
      fun isLayout => absurd isLayout namesLayout,
      fun _ isLayout => absurd isLayout transportNamesLayout⟩

/-- A setup of texts in different cases, one of which means no level. -/
def mixed : Setup where
  level := .text "dEbUg"
  transportLevel := .text "quiet"
  furtherLoggers := .array [.text "httpx", .text "app"]

/-- The law for a level in mixed case and a text that means no level. -/
theorem run_falls_back_iff_mixed :
    mixed.level = .text "dEbUg" ∧ mixed.transportLevel = .text "quiet" ∧
      (∃ documents, furtherNames mixed.furtherLoggers = .ok documents ∧
        ∀ document ∈ documents, ∃ name, nameOf document = .ok name) ∧
      (¬ NamesLayout "dEbUg" ∧ ¬ NamesLayout "quiet") ∧
      ∃ lines after, mixed.run [] (.int 0) Routing.initial = (.ok lines, after) ∧
        mixed.GivesLevels Level.debug Level.warning after := by
  have areNamed : ∃ documents, furtherNames mixed.furtherLoggers = .ok documents ∧
      ∀ document ∈ documents, ∃ name, nameOf document = .ok name :=
    ⟨_, rfl, by simp [nameOf_text]⟩
  have noLayouts : ¬ NamesLayout "dEbUg" ∧ ¬ NamesLayout "quiet" := by decide +kernel
  obtain ⟨result, after, isRun, completes, gives, -, -⟩ :=
    @run_falls_back_iff mixed "dEbUg" "quiet" rfl rfl areNamed [] (.int 0) Routing.initial
  obtain ⟨lines, rfl⟩ := completes.2 noLayouts
  have given := gives noLayouts.1 noLayouts.2
  rw [show levelNamed Level.info "dEbUg" = Level.debug by decide +kernel,
    show levelNamed Level.warning "quiet" = Level.warning by decide +kernel] at given
  exact ⟨rfl, rfl, areNamed, noLayouts, lines, after, isRun, given⟩

/-- A setup with the name of a layout as the level of the transport. -/
def refused : Setup where
  level := .text "DEBUG"
  transportLevel := .text "basic_format"

/-- After a setup that completes, another one fails when the root has its new level, while the library and
the transport still have their old ones. -/
theorem exists_half_set_up :
    ∃ lines before after, ({} : Setup).run [] (.int 0) Routing.initial = (.ok lines, before) ∧
      refused.run [] (.int 1) before = (.error unknownLevel, after) ∧
      after.root.level = Level.debug ∧
      (after.logger Event.libraryLogger).level = Level.info ∧
      (after.logger Event.transportLogger).level = Level.warning ∧
      ∀ name, Routing.isRoot name = false → after.logger name = before.logger name := by
  refine ⟨_, _, _, rfl, rfl, by decide +kernel, by decide +kernel, by decide +kernel,
    fun name notRoot => ?_⟩
  simp only [Routing.logger, notRoot]
  rfl

end Keyspace.Journal.Setup
