import Keyspace.Proofs.Journal.Setup

/-!
# Setting up again

Setting the journal up changes the loggers that it names, and no others. So every logger is as the last
occasion that names it leaves it, and what an earlier one did to others stays. Where the last occasion
names whatever the earlier ones name among the loggers that count for a record, the record is treated as
if the last occasion had been the only one. Both are said by `last_occasion_decides`. A logger that the
last occasion does not name keeps its level and its context, `exists_setup_outlived`.
-/

namespace Keyspace.Journal

namespace Routing

variable {routing other : Routing} {name : String}

/-- The records of a logger are treated alike: they need the same level, go through the same filters,
reach the same handlers, and the same lines are written of them. Whether the root passes records on is
left out, since there is nothing above it. -/
structure TreatsAlike (routing other : Routing) (name : String) : Prop where
  level : (routing.logger name).level = (other.logger name).level
  effectiveLevel : routing.effectiveLevel name = other.effectiveLevel name
  handlers : (routing.logger name).handlers = (other.logger name).handlers
  reached : handlersOf (routing.chain name) = handlersOf (other.chain name)
  filters : (routing.logger name).filters = (other.logger name).filters
  passesOn : isRoot name = false →
    (routing.logger name).passesOn = (other.logger name).passesOn
  log : ∀ created (notice : Notice), notice.logger = name →
    routing.log created notice = other.log created notice

/-- Records are treated alike where the roots agree, but for whether they pass records on, and so do the
loggers that count. -/
theorem treatsAlike_of_agree
    (rootsAgree : ∃ passesOn, routing.root = { other.root with passesOn })
    (noMore : ∀ found, other.isMade found = true → routing.isMade found = true)
    (agree : ∀ found ∈ routing.counting name, routing.AgreesAt other found) :
    routing.TreatsAlike other name := by
  obtain ⟨passesOn, sameRoot⟩ := rootsAgree
  have sameCounting := counting_congr noMore agree
  have sameLoggers : (routing.counting name).map routing.logger =
      (other.counting name).map other.logger := by
    rw [← sameCounting]
    exact List.map_congr_left fun found counts => (agree found counts).logger
  have atStart : isRoot name = false → routing.logger name = other.logger name := by
    intro notRoot
    refine (agree name ?_).logger
    simp [counting, namesFrom, notRoot, upToLast]
  have sameButPassing : ∃ passesOn, routing.logger name = { other.logger name with passesOn } := by
    cases isRootName : isRoot name with
    | true => exact ⟨passesOn, by simp [logger, isRootName, sameRoot]⟩
    | false => exact ⟨_, atStart isRootName⟩
  obtain ⟨_, sameLogger⟩ := sameButPassing
  have sameLevel : routing.effectiveLevel name = other.effectiveLevel name := by
    rw [effectiveLevel_eq, effectiveLevel_eq, sameLoggers, sameRoot]
    simp only [List.map_append, List.map_cons, List.map_nil]
  have sameReached : handlersOf (routing.chain name) = handlersOf (other.chain name) := by
    rw [handlersOf_chain_eq, handlersOf_chain_eq, sameLoggers]
    exact handlersOf_append_root _ (by rw [sameRoot])
  have sameFilters : (routing.logger name).filters = (other.logger name).filters := by
    rw [sameLogger]
  refine ⟨by rw [sameLogger], sameLevel, by rw [sameLogger], sameReached, sameFilters, ?_, ?_⟩
  · intro notRoot
    rw [atStart notRoot]
  · rintro created notice rfl
    unfold log accepts
    rw [sameLevel, sameReached, sameFilters]

end Routing

namespace Occasion

variable {occasions : List Occasion} {routing : Routing} {name : String}

/-- Loggers that are not named are left alone. -/
theorem logger_applyAll_of_forall_not_names
    (notNamed : ∀ occasion ∈ occasions, ¬ occasion.plan.Names name) :
    (applyAll occasions routing).logger name = routing.logger name := by
  induction occasions generalizing routing with
  | nil => rfl
  | cons occasion later inductionHypothesis =>
    rw [← occasion.plan.logger_apply_of_not_names routing (notNamed occasion (by simp))]
    exact inductionHypothesis fun other isLater => notNamed other (by simp [isLater])

/-- The loggers that are made are those that are named. -/
theorem isMade_applyAll (notRoot : Routing.isRoot name = false) :
    (applyAll occasions routing).isMade name = true ↔
      routing.isMade name = true ∨ ∃ occasion ∈ occasions, occasion.plan.Names name := by
  induction occasions generalizing routing with
  | nil => simp [applyAll]
  | cons occasion later inductionHypothesis =>
    refine inductionHypothesis.trans ?_
    rw [occasion.plan.isMade_apply routing notRoot]
    simp [or_assoc]

/-- A logger below the root is as the last occasion that names it leaves it. -/
theorem logger_applyAll_of_last {before later : List Occasion} {occasion : Occasion}
    (notRoot : Routing.isRoot name = false) (isNamed : occasion.plan.Names name)
    (notLater : ∀ other ∈ later, ¬ other.plan.Names name) :
    (applyAll (before ++ occasion :: later) routing).logger name =
      occasion.plan.configured name := by
  have split : applyAll (before ++ occasion :: later) routing =
      applyAll later (occasion.plan.apply (applyAll before routing)) := by
    simp [applyAll]
  rw [split, logger_applyAll_of_forall_not_names notLater,
    occasion.plan.logger_apply_of_names _ notRoot isNamed]

/-- Loggers that are made when a plan alone is carried out are made when it is carried out last. -/
theorem isMade_apply_applyAll (plan : Setup.Plan) (occasions : List Occasion) {found : String}
    (isMadeAlone : (plan.apply routing).isMade found = true) :
    (plan.apply (applyAll occasions routing)).isMade found = true := by
  cases isRoot : Routing.isRoot found with
  | true => simp [Routing.isMade, isRoot] at isMadeAlone
  | false =>
    rw [plan.isMade_apply _ isRoot, isMade_applyAll isRoot]
    exact ((plan.isMade_apply _ isRoot).1 isMadeAlone).imp_left .inl

/-- A logger below the root that a plan names if an earlier occasion does is after it as it would be
without the earlier occasions: either the plan sets it up, or all have left it alone. -/
theorem agreesAt_apply_applyAll (plan : Setup.Plan) {found : String}
    (notRoot : Routing.isRoot found = false)
    (isCovered : (∃ occasion ∈ occasions, occasion.plan.Names found) → plan.Names found) :
    (plan.apply (applyAll occasions routing)).AgreesAt (plan.apply routing) found where
  logger := by
    by_cases isNamed : plan.Names found
    · rw [plan.logger_apply_of_names _ notRoot isNamed, plan.logger_apply_of_names _ notRoot isNamed]
    · rw [plan.logger_apply_of_not_names _ isNamed, plan.logger_apply_of_not_names _ isNamed]
      exact logger_applyAll_of_forall_not_names fun occasion isEarlier isNamedEarlier =>
        isNamed (isCovered ⟨occasion, isEarlier, isNamedEarlier⟩)
  isMade := by
    rw [plan.isMade_apply _ notRoot, plan.isMade_apply _ notRoot, isMade_applyAll notRoot]
    rintro ((isMade | isNamedEarlier) | isNamed)
    · exact .inl isMade
    · exact .inr (isCovered isNamedEarlier)
    · exact .inr isNamed

/-- When the journal is set up again and again, every logger below the root is as the last occasion
that names it leaves it, and as it was if none does; and the records of a logger are treated as if the
last occasion had been the only one, provided that of the loggers that count for them it names those
that an earlier occasion names. -/
theorem last_occasion_decides {earlier : List Occasion} {last : Occasion}
    (areSound : ∀ occasion ∈ earlier ++ [last], occasion.setup.IsSound) (routing : Routing) :
    ∃ after alone, Completes (earlier ++ [last]) routing after ∧ Completes [last] routing alone ∧
      (∀ name, Routing.isRoot name = false →
        (∀ before occasion later, earlier ++ [last] = before ++ occasion :: later →
          occasion.plan.Names name → (∀ other ∈ later, ¬ other.plan.Names name) →
          after.logger name = occasion.plan.configured name) ∧
        ((∀ occasion ∈ earlier ++ [last], ¬ occasion.plan.Names name) →
          after.logger name = routing.logger name)) ∧
      ∀ name, (∀ found ∈ after.counting name,
          (∃ occasion ∈ earlier, occasion.plan.Names found) → last.plan.Names found) →
        after.TreatsAlike alone name := by
  refine ⟨_, _, completes_applyAll areSound routing,
    completes_applyAll (by simpa using areSound last (by simp)) routing, ?_, ?_⟩
  · intro name notRoot
    refine ⟨?_, logger_applyAll_of_forall_not_names⟩
    intro before occasion later isSplit isNamed notLater
    rw [isSplit]
    exact logger_applyAll_of_last notRoot isNamed notLater
  · intro name covers
    have alone : applyAll [last] routing = last.plan.apply routing := by simp [applyAll]
    rw [alone]
    rw [applyAll_concat] at covers ⊢
    refine Routing.treatsAlike_of_agree ?_ (fun found => isMade_apply_applyAll last.plan earlier)
      fun found counts => ?_
    · obtain ⟨passesOn, isRoot⟩ := last.plan.root_apply (applyAll earlier routing)
      obtain ⟨_, isRootAlone⟩ := last.plan.root_apply routing
      exact ⟨passesOn, by rw [isRoot, isRootAlone]⟩
    · exact agreesAt_apply_applyAll last.plan
        (Routing.mem_namesFrom (Routing.mem_of_mem_upToLast counts)).1 (covers found counts)

/-- An occasion on which a logger of an application and the root are named. -/
def wide : Occasion where
  environment := []
  created := .int 0
  setup := { level := .text "DEBUG", applicationName := .text "first",
             furtherLoggers := .array [.text "app", .text "root"] }

/-- An occasion on which no further logger is named. -/
def narrow : Occasion where
  environment := []
  created := .int 1
  setup := { level := .text "error" }

/-- Setups are sound on both occasions. -/
theorem isSound_wide_narrow : ∀ occasion ∈ [wide] ++ [narrow], occasion.setup.IsSound := by
  simp only [wide, narrow, List.singleton_append, List.forall_mem_cons, List.not_mem_nil,
    false_implies, implies_true, and_true]
  constructor
  · exact ⟨by decide +kernel, by decide +kernel, _, rfl, by simp [Setup.nameOf_text]⟩
  · exact ⟨by decide +kernel, by decide +kernel, _, rfl, by simp⟩

/-- The law for the two occasions, at a logger of the library. -/
theorem last_occasion_decides_library :
    (∀ occasion ∈ [wide] ++ [narrow], occasion.setup.IsSound) ∧
      ∃ after alone, Completes ([wide] ++ [narrow]) Routing.initial after ∧
        Completes [narrow] Routing.initial alone ∧
        after.TreatsAlike alone "etcd_config_bridge.accessor" := by
  obtain ⟨after, alone, completes, completesAlone, -, alike⟩ :=
    last_occasion_decides isSound_wide_narrow Routing.initial
  refine ⟨isSound_wide_narrow, after, alone, completes, completesAlone, alike _ ?_⟩
  rintro found counts ⟨occasion, isWide, isNamed⟩
  have isFound := (Routing.mem_namesFrom (Routing.mem_of_mem_upToLast counts)).2
  obtain rfl := List.mem_singleton.1 isWide
  rcases isNamed with isRoot | isTransport | isConnection | isLibrary | isFurther
  · exact .inl isRoot
  · exact .inr (.inl isTransport)
  · exact .inr (.inr (.inl isConnection))
  · exact .inr (.inr (.inr (.inl isLibrary)))
  · have areFurther : wide.plan.further = ["app", "root"] := by decide +kernel
    rw [areFurther] at isFurther
    simp only [List.mem_cons, List.not_mem_nil, or_false] at isFurther
    rcases isFurther with rfl | rfl
    · -- The logger of the application is no logger of the library, and stands above none.
      rcases isFound with same | ⟨-, below, isBelow⟩
      · exact absurd same (by decide)
      · simp at isBelow
    · exact .inl (by decide)

/-- A logger that was named once, and not the last time, keeps its level, its handler and its context, and
goes on keeping its records; and the root goes on keeping its own. -/
theorem exists_setup_outlived :
    ∃ after alone, Completes ([wide] ++ [narrow]) Routing.initial after ∧
      Completes [narrow] Routing.initial alone ∧
      (after.effectiveLevel "app" = Level.debug ∧ alone.effectiveLevel "app" = Level.error) ∧
      ((after.logger "app").handlers = [.lines (wide.setup.context [])] ∧
        (alone.logger "app").handlers = []) ∧
      ((after.logger "app").passesOn = false ∧ (alone.logger "app").passesOn = true) ∧
      Routing.handlersOf (after.chain "app") = [.lines (wide.setup.context [])] ∧
      Routing.handlersOf (alone.chain "app") = [.lines (narrow.setup.context [])] ∧
      wide.setup.context [] ≠ narrow.setup.context [] ∧
      after.root.passesOn = false ∧ alone.root.passesOn = true :=
  ⟨_, _, completes_applyAll isSound_wide_narrow _,
    completes_applyAll (by simpa using isSound_wide_narrow narrow (by simp)) _,
    by decide +kernel, by decide +kernel, by decide +kernel, by decide +kernel, by decide +kernel,
    by decide +kernel, by decide +kernel, by decide +kernel⟩

end Occasion

end Keyspace.Journal
