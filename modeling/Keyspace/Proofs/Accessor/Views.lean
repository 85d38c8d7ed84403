import Keyspace.Proofs.Accessor.Address
import Keyspace.Proofs.Accessor.Performing

/-!
# Operations and the views of their outcomes

Whatever a server replies, the outcome of an operation has exactly one shape, the shape is that of
the reply, and all views of the outcome show it: the four that are computed from the outcome, and
the one event that the operation takes down.
-/

namespace Keyspace

namespace Outcome.Shape

/-- A reply comes to a shape. -/
def IsFor (reply : Reply) : Shape → Prop
  | .unanswered cause _ => reply = .error cause
  | .refused status | .unusable status _ | .understood status =>
    ∃ response, reply = .ok response ∧ response.status = status

/-- The event that goes with a shape. -/
def event (method : Method) (address : String) (outcome : Outcome String) : Shape → Event
  | .unanswered cause _ => .requestFailed method outcome.key address cause
  | .refused status => .requestNotOk method outcome.key status
  | .unusable _ error => .answerNotUsable method outcome.key error
  | .understood _ => .requestCompleted method outcome.key outcome.entries.size

end Outcome.Shape

namespace Accessor

variable {accessor : Accessor} {attempt : Attempt} {reply : Reply} {outcome : Outcome String}
  {event : Event}

/-- What an attempt is concluded with has the shape of the reply, and takes down that shape. -/
theorem Concludes.exists_shape (concludes : Concludes accessor attempt reply outcome event) :
    ∃ shape : Outcome.Shape, shape.IsFor reply ∧ outcome.HasShape shape ∧
      event = shape.event attempt.operation.method attempt.address outcome := by
  cases concludes with
  | unanswered _ => exact ⟨.unanswered _ _, rfl, ⟨rfl, rfl, rfl, rfl, rfl⟩, rfl⟩
  | refused noSuccess => exact ⟨.refused _, ⟨_, rfl, rfl⟩, ⟨rfl, noSuccess, rfl, rfl⟩, rfl⟩
  | unusable success _ =>
    exact ⟨.unusable _ _, ⟨_, rfl, rfl⟩, ⟨rfl, success, rfl, rfl, AnswerFault.kind_error _ _⟩, rfl⟩
  | understood success _ => exact ⟨.understood _, ⟨_, rfl, rfl⟩, ⟨rfl, success, rfl⟩, rfl⟩

/-- The outcome of an operation has the one shape of the reply that the operation meets, and all
views of the outcome show that shape. -/
theorem perform_views {State : Type} (serve : Server State) (accessor : Accessor) (isOpen : Bool)
    (operation : Operation) (key : String) (timeout : Option TimeoutSetting)
    (transcript : Transcript State) {outcome : Outcome String}
    (performed : (accessor.perform serve isOpen ⟨operation, .text key, timeout⟩ transcript).1 =
      .ok outcome) :
    outcome.key = key ∧ outcome.source = accessor.source ∧
      ∃ reply, Meets serve accessor isOpen operation key timeout transcript reply ∧
        ∃ shape : Outcome.Shape, shape.IsFor reply ∧
          outcome.HasShape shape ∧ (∀ other, outcome.HasShape other → other = shape) ∧
          outcome.ViewsShow shape ∧
          (accessor.perform serve isOpen ⟨operation, .text key, timeout⟩ transcript).2.events.filter
              Event.isOwn =
            transcript.events.filter Event.isOwn ++
              [shape.event operation.method (accessor.keyAddress key) outcome] := by
  obtain ⟨attempt, event, prepared, concluded, rest⟩ := exists_attempt_of_perform performed
  have isAttempt := isAttempt_of_prepare prepared
  obtain rfl : key = attempt.key := by simpa using isAttempt.key
  obtain rfl : attempt.operation = operation := isAttempt.operation
  have concludes := concludes_of_conclude concluded
  obtain ⟨shape, isFor, hasShape, isEvent⟩ := concludes.exists_shape
  refine ⟨concludes.about.1, concludes.about.2, _, meets_dispatch isAttempt, shape, isFor, hasShape,
    fun other hasOther => hasOther.unique hasShape, hasShape.views, ?_⟩
  have isOwn : event.isOwn = true := by
    rw [← Bool.not_eq_false, Event.isOwn_eq_false_iff, isEvent]
    cases shape <;> simp [Outcome.Shape.event]
  rw [rest, ← isAttempt.address, ← isEvent]
  simp only [Transcript.note, List.filter_append, ownEvents_dispatch, List.filter_cons, isOwn,
    if_true, List.filter_nil]

/-- The law at an answer without success, for a key that leads to another place. -/
theorem perform_views_refused :
    ∃ outcome, (standard.perform Script.serve true ⟨.remove, .text "/a/../b", none⟩
          ⟨[.ok { status := 404, body := [] }], [], []⟩).1 = .ok outcome ∧
      outcome.HasShape (.refused 404) ∧ outcome.ViewsShow (.refused 404) := by
  have performed : (standard.perform Script.serve true ⟨.remove, .text "/a/../b", none⟩
      ⟨[.ok { status := 404, body := [] }], [], []⟩).1 =
        .ok { key := "/a/../b", source := standard.source, status := some 404 } := by rfl
  obtain ⟨-, -, reply, -, shape, -, hasShape, -, views, -⟩ := perform_views Script.serve standard
    true .remove "/a/../b" none ⟨[.ok { status := 404, body := [] }], [], []⟩ performed
  have isShape : shape = .refused 404 := hasShape.unique ⟨rfl, by decide, rfl, rfl⟩
  subst isShape
  exact ⟨_, performed, hasShape, views⟩

end Accessor

end Keyspace
