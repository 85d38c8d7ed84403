import Keyspace.Proofs.Accessor.Performing

/-!
# Operations replayed

What an operation sends is known before it is sent, and what it comes to depends on the server only
through the replies to that. So an operation comes to the same with every server that replies the
same, in whatever state and after whatever else (`perform_eq_of_replies`).
-/

namespace Keyspace

namespace Server

variable {State : Type} (serve : Server State)

/-- The replies of a server to requests, one after the other. -/
def replies : State → List Request → List Reply
  | _, [] => []
  | state, request :: later =>
    (serve state request).1 :: replies (serve state request).2 later

/-- The state of a server after requests. -/
def after (state : State) (requests : List Request) : State :=
  requests.foldl (fun state request => (serve state request).2) state

@[simp] theorem length_replies (state : State) (requests : List Request) :
    (serve.replies state requests).length = requests.length := by
  induction requests generalizing state with
  | nil => rfl
  | cons request later inductionHypothesis => simp [replies, inductionHypothesis]

/-- Later requests are replied to where earlier ones have left the server. -/
theorem replies_append (state : State) (earlier later : List Request) :
    serve.replies state (earlier ++ later) =
      serve.replies state earlier ++ serve.replies (serve.after state earlier) later := by
  induction earlier generalizing state with
  | nil => rfl
  | cons request rest inductionHypothesis =>
    simp [replies, after, inductionHypothesis, List.foldl_cons]

/-- Replies to two lots of requests are the same when they are so lot by lot. -/
theorem replies_append_eq_iff {State OtherState : Type} {serve : Server State}
    {other : Server OtherState} {state : State} {otherState : OtherState}
    {earlier later : List Request} :
    other.replies otherState (earlier ++ later) = serve.replies state (earlier ++ later) ↔
      other.replies otherState earlier = serve.replies state earlier ∧
        other.replies (other.after otherState earlier) later =
          serve.replies (serve.after state earlier) later := by
  rw [replies_append, replies_append]
  exact ⟨fun same => List.append_inj same (by simp), fun both => by rw [both.1, both.2]⟩

end Server

namespace Accessor

variable {State : Type} {serve : Server State} {isOpen : Bool} {transcript : Transcript State}

/-- The requests of a call, known before they are sent. -/
def requestsOf (accessor : Accessor) (isOpen : Bool) (call : Call) : List Request :=
  match accessor.prepare call with
  | .error _ => []
  | .ok attempt => sent isOpen attempt.request

/-- The requests of a call are those of the attempt that it is prepared as, on an open client. -/
theorem mem_requestsOf_iff {accessor : Accessor} {call : Call} {request : Request} :
    request ∈ accessor.requestsOf isOpen call ↔
      isOpen = true ∧ ∃ attempt, accessor.prepare call = .ok attempt ∧ attempt.request = .ok request := by
  unfold requestsOf
  cases accessor.prepare call with
  | error failure => simp
  | ok attempt => simp

/-- A request that has been recorded for a call is one of its requests. -/
theorem mem_requestsOf_of_recorded {accessor : Accessor} {call : Call} {request : Request}
    (recorded : (accessor.perform serve isOpen call transcript).2.requests =
      transcript.requests ++ [request]) : request ∈ accessor.requestsOf isOpen call := by
  rw [requests_perform] at recorded
  have only : accessor.requestsOf isOpen call = [request] := List.append_cancel_left recorded
  exact only ▸ List.mem_singleton_self request

/-- The requests of a call are at most one, with the method of the operation and the URL of the
key. -/
theorem requestsOf_spec (accessor : Accessor) (isOpen : Bool) (call : Call) :
    (accessor.requestsOf isOpen call).length ≤ 1 ∧
      ∀ request ∈ accessor.requestsOf isOpen call, request.method = call.operation.method ∧
        ∃ key, call.key = .text key ∧
          urlOf (accessor.keyAddress key) call.operation.query? = .ok request.url := by
  constructor
  · unfold requestsOf
    split
    · exact Nat.zero_le 1
    · exact length_sent_le _ _
  · intro request isRequest
    obtain ⟨-, attempt, prepared, ready⟩ := mem_requestsOf_iff.1 isRequest
    obtain ⟨isKey, -, isAddress, made⟩ := isAttempt_of_prepare prepared
    rw [ready, isAddress] at made
    exact ⟨made.2.1, attempt.key, isKey, made.1⟩

/-- What is dispatched leaves the server where the request leaves it. -/
theorem server_dispatch (request : Except Url.UrlFault Request) :
    (dispatch serve isOpen request transcript).2.server =
      serve.after transcript.server (sent isOpen request) := by
  cases request with
  | error fault => rfl
  | ok ready =>
    cases isOpen with
    | false => rfl
    | true =>
      simp only [dispatch, if_true, Transcript.exchange]
      split <;> rfl

/-- An operation leaves the server where its requests leave it. -/
theorem server_perform (accessor : Accessor) (call : Call) :
    (accessor.perform serve isOpen call transcript).2.server =
      serve.after transcript.server (accessor.requestsOf isOpen call) := by
  cases prepared : accessor.prepare call with
  | error failure => simp [perform, requestsOf, prepared, Server.after]
  | ok attempt =>
    have dispatched : (dispatch serve isOpen attempt.request transcript).2.server =
        serve.after transcript.server (sent isOpen attempt.request) :=
      server_dispatch attempt.request
    simp only [perform, requestsOf, prepared]
    split <;> exact dispatched

/-- The same replies dispatch the same. -/
theorem dispatch_eq_of_replies {OtherState : Type} {other : Server OtherState}
    {otherTranscript : Transcript OtherState} (request : Except Url.UrlFault Request)
    (same : other.replies otherTranscript.server (sent isOpen request) =
      serve.replies transcript.server (sent isOpen request)) :
    (dispatch other isOpen request otherTranscript).1 =
      (dispatch serve isOpen request transcript).1 := by
  cases request with
  | error fault => rfl
  | ok ready =>
    cases isOpen with
    | false => rfl
    | true =>
      have sameReply : (other otherTranscript.server ready).1 =
          (serve transcript.server ready).1 := by
        simpa [sent, Server.replies] using same
      exact (reply_exchange ready).trans (sameReply.trans (reply_exchange ready).symm)

/-- An operation comes to the same with every server that replies the same to its requests. -/
theorem perform_eq_of_replies {OtherState : Type} {other : Server OtherState}
    {otherTranscript : Transcript OtherState} (accessor : Accessor) (call : Call)
    (same : other.replies otherTranscript.server (accessor.requestsOf isOpen call) =
      serve.replies transcript.server (accessor.requestsOf isOpen call)) :
    (accessor.perform other isOpen call otherTranscript).1 =
      (accessor.perform serve isOpen call transcript).1 := by
  cases prepared : accessor.prepare call with
  | error failure => simp [perform, prepared]
  | ok attempt =>
    simp only [requestsOf, prepared] at same
    have dispatched := dispatch_eq_of_replies attempt.request same
    simp only [perform, prepared, dispatched]
    cases accessor.conclude attempt (dispatch serve isOpen attempt.request transcript).1 <;> rfl

end Accessor

end Keyspace
