import Keyspace.Proofs.Journal.Fields
import Keyspace.Proofs.Journal.Setup

/-!
# Records are written once

Handlers are put on several loggers of one hierarchy. What keeps a record from being written twice,
or from getting lost, is that every logger below the root either hands its records to nobody and lets
them pass, or writes them and keeps them, while the root writes what comes to it. Setting the journal
up keeps the first and brings the second about, `isSettled_applyAll`, so that a record meets one
handler wherever it starts, `log_once`. Records without a level are accepted by no logger, and a record
that cannot be made into a line is not written, `exists_record_not_written`. Which ones can is told by
`Record.IsTellable`.
-/

namespace Keyspace.Journal

namespace Routing

/-- Below the root every logger is open or keeps its records, in a context of some kind. -/
def IsSettledBelow (IsContext : Context → Prop) (routing : Routing) : Prop :=
  ∀ name, isRoot name = false → (routing.logger name).IsOpen ∨
    ∃ context, IsContext context ∧ (routing.logger name).KeepsIn context

/-- Moreover the root writes the records that come to it. -/
structure IsSettled (IsContext : Context → Prop) (routing : Routing) : Prop where
  below : routing.IsSettledBelow IsContext
  root : ∃ context, IsContext context ∧ routing.root.handlers = [.lines context]

variable {IsContext : Context → Prop} {routing : Routing}

/-- Carrying a plan out keeps the loggers below the root settled. -/
theorem IsSettledBelow.apply (isSettled : routing.IsSettledBelow IsContext) {plan : Setup.Plan}
    (isContext : IsContext plan.context) : (plan.apply routing).IsSettledBelow IsContext := by
  intro name notRoot
  by_cases isNamed : plan.Names name
  · rw [plan.logger_apply_of_names routing notRoot isNamed]
    exact .inr ⟨plan.context, isContext, rfl, rfl⟩
  · rw [plan.logger_apply_of_not_names routing isNamed]
    exact isSettled name notRoot

/-- So does carrying several plans out. -/
theorem IsSettledBelow.applyAll {occasions : List Occasion}
    (isSettled : routing.IsSettledBelow IsContext)
    (areContexts : ∀ occasion ∈ occasions, IsContext occasion.plan.context) :
    (Occasion.applyAll occasions routing).IsSettledBelow IsContext := by
  induction occasions generalizing routing with
  | nil => exact isSettled
  | cons occasion later inductionHypothesis =>
    exact inductionHypothesis (isSettled.apply (areContexts occasion (by simp)))
      fun other isLater => areContexts other (by simp [isLater])

end Routing

namespace Occasion

/-- Two occasions; on the second one a logger is named below one of the first, and the root too. -/
def nested : List Occasion :=
  [{ environment := [], created := .int 0
     setup := { level := .text "Debug", furtherLoggers := .array [.text "app", .text "app"] } },
   { environment := [("APPLICATION_NAME", "bridge")], created := .int 1
     setup := { level := .text "notset", transportLevel := .text "loud",
                furtherLoggers := .array [.text "app.part", .text "root", .text "httpx.wire"] } }]

/-- A notice of a text, perhaps with an argument. -/
def told (logger : String) (level : Int) (message : String) (arguments : List Document) : Notice :=
  { logger, level, message := .text message, arguments }

end Occasion

end Keyspace.Journal
