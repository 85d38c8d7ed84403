/-!
# Progress

What is filled in item by item may be ended by a fault. The items that are there by then stand beside
the fault, so that they have to be taken back by whoever does not want them.
-/

namespace Keyspace

/-- The items that are there so far, and the fault that has ended the filling in, if there is one. -/
structure Progress (ε α : Type) where
  items : List α := []
  fault : Option ε := none
deriving DecidableEq, Repr

namespace Progress

variable {ε δ α β : Type}

/-- Ended by a fault before anything was there. -/
def ended (fault : ε) : Progress ε α := { fault := some fault }

/-- Go on, unless there has been a fault. -/
def andThen (progress next : Progress ε α) : Progress ε α :=
  match progress.fault with
  | some _ => progress
  | none => { next with items := progress.items ++ next.items }

/-- Go on with what a step comes to, which may be a fault. -/
def after (step : Except ε β) (next : β → Progress ε α) : Progress ε α :=
  match step with
  | .error fault => ended fault
  | .ok value => next value

/-- Several items in the place of each one. -/
def flatMap (expand : α → List β) (progress : Progress ε α) : Progress ε β where
  items := progress.items.flatMap expand
  fault := progress.fault

/-- Another fault in the place of the one that there has been. -/
def mapFault (change : ε → δ) (progress : Progress ε α) : Progress δ α where
  items := progress.items
  fault := progress.fault.map change

/-- The items, unless there has been a fault. -/
def result (progress : Progress ε α) : Except ε (List α) :=
  match progress.fault with
  | none => .ok progress.items
  | some fault => .error fault

@[simp] theorem result_mk (items : List α) :
    ({ items } : Progress ε α).result = .ok items := rfl

@[simp] theorem result_ended (fault : ε) : (ended fault : Progress ε α).result = .error fault := rfl

theorem result_andThen (progress next : Progress ε α) :
    (progress.andThen next).result = (do
      let first ← progress.result
      let rest ← next.result
      return first ++ rest) := by
  obtain ⟨items, _ | fault⟩ := progress
  · obtain ⟨others, _ | fault⟩ := next <;> rfl
  · rfl

theorem result_after (step : Except ε β) (next : β → Progress ε α) :
    (after step next).result = step.bind fun value => (next value).result := by
  cases step <;> rfl

theorem result_flatMap (expand : α → List β) (progress : Progress ε α) :
    (progress.flatMap expand).result = progress.result.map fun items => items.flatMap expand := by
  obtain ⟨items, _ | fault⟩ := progress <;> rfl

theorem result_mapFault (change : ε → δ) (progress : Progress ε α) :
    (progress.mapFault change).result = progress.result.mapError change := by
  obtain ⟨items, _ | fault⟩ := progress <;> rfl

end Progress

end Keyspace
