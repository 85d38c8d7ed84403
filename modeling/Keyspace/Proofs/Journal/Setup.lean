import Keyspace.Journal.Setup
import Keyspace.Proofs.Journal.Routing

/-!
# What a setup comes to

Once its arguments are read, a setup is a plan: a context, a level for the library and one for its
transport, and the names of further loggers. A sound setup carries its plan out and then writes a
notice of it, `run_of_isSound`, so that on one occasion after the other plans are carried out,
`completes_applyAll`. What a plan makes of the loggers is told by `root_apply` for the root, by
`logger_apply_of_names` and `logger_apply_of_not_names` for those below it, and by `isMade_apply` for
which of them are made.

A name of a level means that level in any case, and any other text means none, except for two names
of layouts, which are refused: `choose_of_not_namesLayout` and `choose_of_namesLayout`.
-/

namespace Keyspace.Journal

namespace Setup

variable {environment : Environment} {setup : Setup}

/-- A text that is, in any case, the name of a layout of lines. -/
def NamesLayout (name : String) : Prop :=
  Text.upper name = "BASIC_FORMAT" ∨ Text.upper name = "_STYLES"

instance (name : String) : Decidable (NamesLayout name) :=
  inferInstanceAs (Decidable (_ ∨ _))

/-- The level that a text means in any case; one that means none gives another level. -/
def levelNamed (default : Int) (name : String) : Int :=
  (Level.ofName? (Text.upper name)).getD default

theorem choose_of_namesLayout (default : Int) {name : String} (namesLayout : NamesLayout name) :
    ∃ fault, choose default name = .error fault := by
  rcases namesLayout with isLayout | areLayouts
  · exact ⟨unknownLevel, by simp [choose, isLayout, Level.ofName?]⟩
  · exact ⟨notALevel, by simp [choose, areLayouts, Level.ofName?]⟩

theorem choose_of_not_namesLayout (default : Int) {name : String}
    (noLayout : ¬ NamesLayout name) : choose default name = .ok (levelNamed default name) := by
  obtain ⟨notLayout, notLayouts⟩ := not_or.1 noLayout
  cases isLevel : Level.ofName? (Text.upper name) <;>
    simp [choose, levelNamed, isLevel, notLayout, notLayouts]

/-- The names that a setup lists for further loggers. -/
def further (setup : Setup) : List String :=
  match furtherNames setup.furtherLoggers with
  | .ok documents => documents.filterMap fun document => (nameOf document).toOption
  | .error _ => []

/-- The document that the level of the transport is read from. -/
def transportDocument (setup : Setup) : Document :=
  orElse setup.transportLevel (.text "WARNING")

/-- A document that a level can be chosen by: its text can be told, and is not the name of a
layout. -/
def ChoosesLevel (document : Document) : Prop :=
  document.isOversized = false ∧ ¬ NamesLayout document.shown

instance (document : Document) : Decidable (ChoosesLevel document) :=
  inferInstanceAs (Decidable (_ ∧ _))

/-- A setup whose levels are not named by layouts, and whose further loggers are listed by name. -/
structure IsSound (setup : Setup) : Prop where
  level : ChoosesLevel setup.level
  transportLevel : ChoosesLevel setup.transportDocument
  further : ∃ documents, furtherNames setup.furtherLoggers = .ok documents ∧
    ∀ document ∈ documents, ∃ name, nameOf document = .ok name

/-- What a setup comes to. -/
structure Plan where
  context : Context
  level : Int
  transportLevel : Int
  further : List String

namespace Plan

/-- The loggers below the root that a plan sets up, each with its level, in their order. -/
def assignments (plan : Plan) : List (String × Int) :=
  [(Event.transportLogger, plan.transportLevel), (connectionLogger, plan.transportLevel),
    (Event.libraryLogger, plan.level)] ++ plan.further.map fun name => (name, plan.level)

/-- Set up loggers below the root, one after the other. -/
def assign (context : Context) (assignments : List (String × Int)) (routing : Routing) : Routing :=
  assignments.foldl (fun routing assignment =>
    routing.update assignment.1 (configureApart context assignment.2)) routing

/-- Carry a plan out. -/
def apply (plan : Plan) (routing : Routing) : Routing :=
  assign plan.context plan.assignments (routing.update "" (configure plan.context plan.level))

/-- A plan sets up the root, the loggers of the library and its transport, and the further ones. -/
def Names (plan : Plan) (name : String) : Prop :=
  Routing.isRoot name = true ∨ name = Event.transportLogger ∨ name = connectionLogger ∨
    name = Event.libraryLogger ∨ name ∈ plan.further

/-- The level that a plan gives a logger that it names. The further loggers come last. -/
def levelOf (plan : Plan) (name : String) : Int :=
  if (name = Event.transportLogger ∨ name = connectionLogger) ∧ name ∉ plan.further then
    plan.transportLevel
  else plan.level

end Plan

theorem nameOf_text (name : String) : nameOf (.text name) = .ok name := by
  by_cases nonempty : name = "" <;> simp [nameOf, Document.isTruthy, nonempty]

/-- The plan that a setup comes to. -/
def plan (environment : Environment) (setup : Setup) : Plan where
  context := setup.context environment
  level := levelNamed Level.info setup.level.shown
  transportLevel := levelNamed Level.warning setup.transportDocument.shown
  further := setup.further

/-- A document whose text is not the name of a layout gives the level that it means. -/
theorem chooseBy_of_choosesLevel (default : Int) {document : Document}
    (chooses : ChoosesLevel document) :
    chooseBy default document = .ok (.ok (levelNamed default document.shown)) := by
  simp [chooseBy, chooses.1, choose_of_not_namesLayout default chooses.2]

/-- Loggers whose names and levels are known are set up one after the other. -/
theorem configureAll_eq (context : Context) {chosen : List (Document × Choice)}
    {assignments : List (String × Int)}
    (known : (chosen.map fun each => (nameOf each.1, each.2)) =
      assignments.map fun each => (.ok each.1, .ok each.2)) (routing : Routing) :
    configureAll context chosen routing = (.ok (), Plan.assign context assignments routing) := by
  induction chosen generalizing assignments routing with
  | nil =>
    obtain rfl : assignments = [] := by simpa using known.symm
    rfl
  | cons first later inductionHypothesis =>
    obtain ⟨document, choice⟩ := first
    cases assignments with
    | nil => simp at known
    | cons assignment others =>
      simp only [List.map_cons, List.cons.injEq, Prod.mk.injEq] at known
      obtain ⟨⟨isName, rfl⟩, knownLater⟩ := known
      simp only [configureAll, isName]
      exact inductionHypothesis knownLater _

/-- A notice of setting up can be made out. -/
theorem exists_log_notice (routing : Routing) (created : Document) (level transportLevel : Int) :
    ∃ lines, routing.log created (notice level transportLevel) = .ok lines := by
  have isRecord : ∃ record, Record.ofNotice created (notice level transportLevel) = .ok record :=
    ⟨_, rfl⟩
  obtain ⟨record, isRecord⟩ := isRecord
  unfold Routing.log
  split
  · simp [isRecord, bind, Except.bind, pure, Except.pure]
  · exact ⟨_, rfl⟩

namespace Plan

/-- What a plan makes of a logger below the root. -/
def configured (plan : Plan) (name : String) : Logger where
  level := plan.levelOf name
  handlers := [.lines plan.context]
  filters := [plan.context]
  passesOn := false

/-- Setting loggers up makes them. -/
theorem isMade_assign (context : Context) (assignments : List (String × Int)) (routing : Routing)
    {name : String} (notRoot : Routing.isRoot name = false) :
    (assign context assignments routing).isMade name = true ↔
      routing.isMade name = true ∨ name ∈ Pairs.keys assignments := by
  induction assignments generalizing routing with
  | nil => simp [assign, Pairs.keys]
  | cons assignment later inductionHypothesis =>
    refine (inductionHypothesis _).trans ?_
    rw [Routing.isMade_update, notRoot, Bool.or_eq_true, or_assoc]
    simp [Pairs.keys, eq_comm (a := name)]

/-- The last level that a logger below the root is given counts, and one that is given none stays as
it is. -/
theorem logger_assign (context : Context) (assignments : List (String × Int)) (routing : Routing)
    {name : String} (notRoot : Routing.isRoot name = false) :
    (assign context assignments routing).logger name =
      match (Pairs.valuesAt name assignments).getLast? with
      | some level => ⟨level, [.lines context], [context], false⟩
      | none => routing.logger name := by
  induction assignments generalizing routing with
  | nil => rfl
  | cons assignment later inductionHypothesis =>
    refine (inductionHypothesis _).trans ?_
    rw [show assignment :: later = [assignment] ++ later from rfl, Pairs.valuesAt_append,
      List.getLast?_append, Pairs.valuesAt_singleton, Routing.logger_update]
    cases (Pairs.valuesAt name later).getLast? with
    | some level => rfl
    | none => by_cases same : assignment.1 = name <;> simp [same, notRoot, configureApart, configure]

/-- The loggers below the root that a plan names are those that it sets up. -/
theorem mem_keys_assignments (plan : Plan) {name : String}
    (notRoot : Routing.isRoot name = false) :
    name ∈ Pairs.keys plan.assignments ↔ plan.Names name := by
  simp [assignments, Pairs.keys, Names, notRoot, List.map_map, Function.comp_def]

/-- A plan makes the loggers that it names. -/
theorem isMade_apply (plan : Plan) (routing : Routing) {name : String}
    (notRoot : Routing.isRoot name = false) :
    (plan.apply routing).isMade name = true ↔ routing.isMade name = true ∨ plan.Names name := by
  rw [apply, isMade_assign _ _ _ notRoot, mem_keys_assignments plan notRoot,
    Routing.isMade_update, notRoot]
  have apart : "" ≠ name := by
    rintro rfl
    simp [Routing.isRoot] at notRoot
  simp [apart]

/-- Where all names are given one level, a name has it exactly if it is one of them. -/
theorem getLast?_valuesAt_map (name : String) (names : List String) (level : Int) :
    (Pairs.valuesAt name (names.map fun each => (each, level))).getLast? =
      if name ∈ names then some level else none := by
  induction names with
  | nil => rfl
  | cons first later inductionHypothesis =>
    rw [List.map_cons, show ∀ pair : String × Int, ∀ pairs, pair :: pairs = [pair] ++ pairs from
      fun _ _ => rfl, Pairs.valuesAt_append, List.getLast?_append, inductionHypothesis,
      Pairs.valuesAt_singleton]
    by_cases isLater : name ∈ later
    · simp [isLater]
    · by_cases same : first = name <;> simp [isLater, same, eq_comm (a := name)]

/-- Of the levels that a plan gives a logger, the last one counts. -/
theorem getLast?_valuesAt_assignments (plan : Plan) {name : String}
    (isKey : name ∈ Pairs.keys plan.assignments) :
    (Pairs.valuesAt name plan.assignments).getLast? = some (plan.levelOf name) := by
  rw [assignments, Pairs.valuesAt_append, List.getLast?_append, getLast?_valuesAt_map, levelOf]
  by_cases isFurther : name ∈ plan.further
  · simp [isFurther]
  · have isFixed : name = Event.transportLogger ∨ name = connectionLogger ∨
        name = Event.libraryLogger := by
      simpa [assignments, Pairs.keys, isFurther, List.map_map, Function.comp_def] using isKey
    have apart : Event.transportLogger ≠ connectionLogger ∧
        Event.transportLogger ≠ Event.libraryLogger ∧ connectionLogger ≠ Event.libraryLogger := by
      decide
    rcases isFixed with rfl | rfl | rfl <;> simp [isFurther, Pairs.valuesAt, apart, apart.1.symm,
      apart.2.1.symm, apart.2.2.symm]

/-- A plan sets up the loggers below the root that it names. -/
theorem logger_apply_of_names (plan : Plan) (routing : Routing) {name : String}
    (notRoot : Routing.isRoot name = false) (isNamed : plan.Names name) :
    (plan.apply routing).logger name = plan.configured name := by
  have isKey := (mem_keys_assignments plan notRoot).2 isNamed
  rw [apply, logger_assign _ _ _ notRoot, getLast?_valuesAt_assignments plan isKey]
  rfl

/-- A plan leaves the loggers alone that it does not name. -/
theorem logger_apply_of_not_names (plan : Plan) (routing : Routing) {name : String}
    (notNamed : ¬ plan.Names name) : (plan.apply routing).logger name = routing.logger name := by
  have notRoot : Routing.isRoot name = false := by simpa using (not_or.1 notNamed).1
  have notKey : name ∉ Pairs.keys plan.assignments :=
    fun isKey => notNamed ((mem_keys_assignments plan notRoot).1 isKey)
  have apart : "" ≠ name := by
    rintro rfl
    simp [Routing.isRoot] at notRoot
  rw [apply, logger_assign _ _ _ notRoot, Pairs.valuesAt_eq_nil notKey, Routing.logger_update]
  simp [apart, notRoot]

/-- The root stays set up when it is given its level again, and passes records on or not. -/
theorem root_assign {context : Context} {level : Int} {assignments : List (String × Int)}
    (sameLevel : ∀ assignment ∈ assignments,
      Routing.isRoot assignment.1 = true → assignment.2 = level) {routing : Routing}
    (isSetUp : ∃ passesOn, routing.root = ⟨level, [.lines context], [context], passesOn⟩) :
    ∃ passesOn, (assign context assignments routing).root =
      ⟨level, [.lines context], [context], passesOn⟩ := by
  induction assignments generalizing routing with
  | nil => exact isSetUp
  | cons assignment later inductionHypothesis =>
    refine inductionHypothesis (fun other isLater => sameLevel other (by simp [isLater])) ?_
    cases isRoot : Routing.isRoot assignment.1 with
    | true =>
      refine ⟨false, ?_⟩
      simp [Routing.update, isRoot, configureApart, configure,
        sameLevel assignment (by simp) isRoot]
    | false => simpa [Routing.update, isRoot] using isSetUp

/-- A plan sets up the root. -/
theorem root_apply (plan : Plan) (routing : Routing) :
    ∃ passesOn, (plan.apply routing).root =
      ⟨plan.level, [.lines plan.context], [plan.context], passesOn⟩ := by
  refine root_assign ?_ ⟨routing.root.passesOn, rfl⟩
  intro assignment isAssignment isRoot
  simp only [assignments, List.mem_append, List.mem_cons, List.not_mem_nil, or_false,
    List.mem_map] at isAssignment
  rcases isAssignment with (rfl | rfl | rfl) | ⟨name, -, rfl⟩
  · exact absurd (show Routing.isRoot Event.transportLogger = true from isRoot) (by decide)
  · exact absurd (show Routing.isRoot connectionLogger = true from isRoot) (by decide)
  · rfl
  · rfl

end Plan

/-- The names of further loggers of a sound setup are known. -/
theorem IsSound.map_nameOf (isSound : setup.IsSound) :
    ∃ documents, furtherNames setup.furtherLoggers = .ok documents ∧
      documents.map nameOf = setup.further.map .ok := by
  obtain ⟨documents, areListed, areNamed⟩ := isSound.further
  refine ⟨documents, areListed, ?_⟩
  simp only [Setup.further, areListed]
  clear areListed
  induction documents with
  | nil => rfl
  | cons document later inductionHypothesis =>
    obtain ⟨name, isName⟩ := areNamed document (by simp)
    have onward := inductionHypothesis fun other isLater => areNamed other (by simp [isLater])
    simp [isName, onward, Except.toOption]

/-- A sound setup carries its plan out, and then a notice of it is written. -/
theorem run_of_isSound (isSound : setup.IsSound) (environment : Environment) (created : Document)
    (routing : Routing) :
    setup.run environment created routing =
      (((setup.plan environment).apply routing).log created
          (notice (setup.plan environment).level (setup.plan environment).transportLevel),
        (setup.plan environment).apply routing) := by
  obtain ⟨documents, areListed, areNamed⟩ := isSound.map_nameOf
  generalize isPlan : setup.plan environment = plan
  have chosen : setup.levels = .ok (.ok plan.level, .ok plan.transportLevel) := by
    have chosenLevel := chooseBy_of_choosesLevel Level.info isSound.level
    have chosenTransport := chooseBy_of_choosesLevel Level.warning isSound.transportLevel
    rw [transportDocument] at chosenTransport
    simp only [levels, chosenLevel, chosenTransport, bind, Except.bind, pure, Except.pure,
      ← isPlan, Setup.plan, transportDocument]
  have isFurther : (documents.map fun name => (nameOf name, (.ok plan.level : Choice))) =
      plan.further.map fun name => (.ok name, .ok plan.level) := by
    have paired := congrArg (List.map fun name => (name, (.ok plan.level : Choice))) areNamed
    simp only [List.map_map, Function.comp_def] at paired
    subst isPlan
    exact paired
  have known : (([(.text Event.transportLogger, .ok plan.transportLevel),
        (.text connectionLogger, .ok plan.transportLevel), (.text Event.libraryLogger,
        .ok plan.level)] ++ documents.map fun name => (name, .ok plan.level) :
          List (Document × Choice)).map fun each => (nameOf each.1, each.2)) =
      plan.assignments.map fun each => (.ok each.1, .ok each.2) := by
    simp only [Plan.assignments, List.map_append, List.map_map, Function.comp_def, isFurther]
    rfl
  have isContext : setup.context environment = plan.context := by rw [← isPlan]; rfl
  have below := configureAll_eq plan.context known
    (routing.update "" (configure plan.context plan.level))
  simp only [run, chosen, configureBelow, areListed, isContext, below]
  rfl

end Setup

/-- One setting up of the journal, in an environment and at a time. -/
structure Occasion where
  environment : Environment
  created : Document
  setup : Setup

namespace Occasion

/-- Set the journal up; the lines that this writes, and the loggers after it. -/
def run (occasion : Occasion) (routing : Routing) : Except Fault (List String) × Routing :=
  occasion.setup.run occasion.environment occasion.created routing

/-- The plan that is carried out on an occasion. -/
def plan (occasion : Occasion) : Setup.Plan := occasion.setup.plan occasion.environment

/-- The journal is set up on one occasion after the other, each time without a fault. -/
inductive Completes : List Occasion → Routing → Routing → Prop where
  | nil (routing : Routing) : Completes [] routing routing
  | cons {occasion : Occasion} {later : List Occasion} {routing next last : Routing}
      {lines : List String} (first : occasion.run routing = (.ok lines, next))
      (rest : Completes later next last) : Completes (occasion :: later) routing last

/-- Carry the plans of several occasions out. -/
def applyAll (occasions : List Occasion) (routing : Routing) : Routing :=
  occasions.foldl (fun routing occasion => occasion.plan.apply routing) routing

theorem applyAll_concat (earlier : List Occasion) (last : Occasion) (routing : Routing) :
    applyAll (earlier ++ [last]) routing = last.plan.apply (applyAll earlier routing) := by
  simp [applyAll]

/-- Setting up with sound setups completes, and carries their plans out. -/
theorem completes_applyAll {occasions : List Occasion}
    (areSound : ∀ occasion ∈ occasions, occasion.setup.IsSound) (routing : Routing) :
    Completes occasions routing (applyAll occasions routing) := by
  induction occasions generalizing routing with
  | nil => exact .nil routing
  | cons occasion later inductionHypothesis =>
    have isRun := Setup.run_of_isSound (areSound occasion (by simp)) occasion.environment
      occasion.created routing
    obtain ⟨lines, areLines⟩ := Setup.exists_log_notice (occasion.plan.apply routing)
      occasion.created occasion.plan.level occasion.plan.transportLevel
    exact .cons (isRun.trans (congrArg (·, _) areLines))
      (inductionHypothesis (fun other isLater => areSound other (by simp [isLater])) _)

end Occasion

end Keyspace.Journal
