import Keyspace.Proofs.Accessor.Raising
import Keyspace.Proofs.Accessor.Replay
import Keyspace.Session

/-!
# Sessions in the long run

A session is asked for one thing after the other, and its client may be closed at any time, by
whoever may do so. `Step.IsLawful` says what one step does: how many requests it sends, with which
timeout, and who closes the client. `lawful_run` carries it over to every run, and adds that nothing
is sent any more when the client has been closed once. An operation that cannot be written in UTF-8
fails like one that is refused, even then: it does not come to an outcome.
-/

namespace Keyspace

namespace Timeout

/-- A timeout is asked for that is not accepted. -/
def IsRefused (asked : Option TimeoutSetting) : Prop :=
  ∃ setting, asked = some setting ∧ ∃ failure, check setting = .error failure

/-- The timeout of a request is the one that was asked for, or else the default. -/
def IsFor (default : Timeout) (asked : Option TimeoutSetting) (timeout : Timeout) : Prop :=
  match asked with
  | none => timeout = default
  | some setting => check setting = .ok timeout

variable {default timeout : Timeout} {asked : Option TimeoutSetting}

/-- The effective timeout is the one that was asked for, or else the default. -/
theorem effective_eq_ok_iff : effective default asked = .ok timeout ↔ IsFor default asked timeout := by
  cases asked with
  | none => simp [effective, IsFor, eq_comm]
  | some setting => rfl

/-- There is no effective timeout when one is asked for that is not accepted. -/
theorem effective_eq_error_iff :
    (∃ failure, effective default asked = .error failure) ↔ IsRefused asked := by
  cases asked with
  | none => simp [effective, IsRefused]
  | some setting => simp [effective, IsRefused]

end Timeout

namespace Accessor

variable {State : Type} {serve : Server State} {accessor : Accessor} {isOpen : Bool} {call : Call}
  {transcript : Transcript State} {timeout : Option TimeoutSetting}

/-- A call without a text for its key, or with a timeout that is not accepted, is not prepared. -/
theorem exists_failure_of_refused
    (refused : (∀ key, call.key ≠ .text key) ∨ Timeout.IsRefused call.timeout) :
    ∃ failure, accessor.prepare call = .error failure := by
  cases prepared : accessor.prepare call with
  | error failure => exact ⟨failure, rfl⟩
  | ok attempt =>
    obtain ⟨isKey, -, -, -⟩ := isAttempt_of_prepare prepared
    rcases refused with notText | refused
    · exact absurd isKey (notText attempt.key)
    · obtain ⟨failure, isFailure⟩ :
          ∃ failure, Timeout.effective accessor.timeout call.timeout = .error failure :=
        Timeout.effective_eq_error_iff.2 refused
      simp only [prepare, bind, Except.bind, isKey, Argument.key_text, isFailure] at prepared
      split at prepared <;> cases prepared

/-- A call that is not prepared fails, and nothing is done for it. -/
theorem perform_of_refused
    (refused : (∀ key, call.key ≠ .text key) ∨ Timeout.IsRefused call.timeout) :
    ∃ failure, accessor.perform serve isOpen call transcript = (.error failure, transcript) := by
  obtain ⟨failure, prepared⟩ : ∃ failure, accessor.prepare call = .error failure :=
    exists_failure_of_refused refused
  exact ⟨failure, by simp only [perform, prepared]⟩

/-- A request of a call is sent on an open client, with the timeout of the call. -/
theorem timeout_of_mem_requestsOf {request : Request}
    (isRequest : request ∈ accessor.requestsOf isOpen call) :
    isOpen = true ∧ Timeout.IsFor accessor.timeout call.timeout request.timeout := by
  obtain ⟨opened, attempt, prepared, ready⟩ := mem_requestsOf_iff.1 isRequest
  obtain ⟨-, -, -, made⟩ := isAttempt_of_prepare prepared
  rw [ready] at made
  exact ⟨opened, Timeout.effective_eq_ok_iff.1 made.2.2.2⟩

/-- There is an effective timeout unless one is asked for that is not accepted. -/
theorem exists_effective_of_accepted (accessor : Accessor) (accepted : ¬ Timeout.IsRefused timeout) :
    ∃ effective, Timeout.effective accessor.timeout timeout = .ok effective := by
  cases isEffective : Timeout.effective accessor.timeout timeout with
  | error failure => exact absurd (Timeout.effective_eq_error_iff.1 ⟨failure, isEffective⟩) accepted
  | ok effective => exact ⟨effective, rfl⟩

/-- A call on a client that has been closed meets a fault of a request, and comes to an outcome with
it, unless it cannot be written in UTF-8. -/
theorem exists_unanswered_of_closed {operation : Operation} {key : String}
    (isSmall : operation.IsSmall) (accepted : ¬ Timeout.IsRefused timeout)
    (unbroken : ∀ fault, ¬ Breaks accessor operation (.text key) fault) :
    ∃ outcome error,
      (accessor.perform serve false ⟨operation, .text key, timeout⟩ transcript).1 = .ok outcome ∧
        outcome.status = none ∧ outcome.error = some error ∧ error.kind = .network := by
  obtain ⟨effective, isEffective⟩ := exists_effective_of_accepted accessor accepted
  obtain ⟨attempt, prepared⟩ := exists_attempt_of_unbroken isSmall isEffective unbroken
  obtain ⟨fault, met, captured⟩ : ∃ fault,
      (dispatch serve false attempt.request transcript).1 = .error fault ∧
        fault.kind.isRequestFault = true := by
    cases attempt.request with
    | error notUrl => exact ⟨urlFault notUrl, rfl, rfl⟩
    | ok request => exact ⟨clientClosed, rfl, rfl⟩
  obtain ⟨outcome, performed, noStatus, isError⟩ := exists_unanswered_of_fault prepared met captured
  exact ⟨outcome, _, performed, noStatus, isError, rfl⟩

/-- The request for the version, unless its address is no URL. -/
def versionRequest (accessor : Accessor) (timeout : Timeout) : Except Url.UrlFault Request :=
  (urlOf accessor.versionAddress none).map fun url =>
    { method := .get, url, form := none, timeout }

/-- The requests for the version, known before they are sent. -/
def versionRequests (accessor : Accessor) (isOpen : Bool) (timeout : Option TimeoutSetting) :
    List Request :=
  match Timeout.effective accessor.timeout timeout with
  | .error _ => []
  | .ok timeout => sent isOpen (accessor.versionRequest timeout)

/-- There is at most one request for the version, on an open client and with the timeout that was
asked for. -/
theorem versionRequests_spec (accessor : Accessor) (isOpen : Bool)
    (timeout : Option TimeoutSetting) :
    (accessor.versionRequests isOpen timeout).length ≤ 1 ∧
      ∀ request ∈ accessor.versionRequests isOpen timeout,
        isOpen = true ∧ Timeout.IsFor accessor.timeout timeout request.timeout := by
  unfold versionRequests
  split
  · simp
  · next effective isEffective =>
    refine ⟨length_sent_le _ _, fun request isRequest => ?_⟩
    obtain ⟨opened, made⟩ := mem_sent_iff.1 isRequest
    refine ⟨opened, Timeout.effective_eq_ok_iff.1 ?_⟩
    cases isUrl : urlOf accessor.versionAddress none with
    | error fault => simp [versionRequest, isUrl, Except.map] at made
    | ok url =>
      obtain rfl : _ = request := by simpa [versionRequest, isUrl, Except.map] using made
      exact isEffective

/-- Asking for the version sends its requests, and leaves the server where they leave it. -/
theorem sent_version :
    (accessor.version serve isOpen timeout transcript).2.requests =
        transcript.requests ++ accessor.versionRequests isOpen timeout ∧
      (accessor.version serve isOpen timeout transcript).2.server =
        serve.after transcript.server (accessor.versionRequests isOpen timeout) := by
  unfold version versionRequests
  cases Timeout.effective accessor.timeout timeout with
  | error failure => simp [Server.after]
  | ok effective =>
    have dispatched :
        (dispatch serve isOpen (accessor.versionRequest effective) transcript).2.requests =
            transcript.requests ++ sent isOpen (accessor.versionRequest effective) ∧
          (dispatch serve isOpen (accessor.versionRequest effective) transcript).2.server =
            serve.after transcript.server (sent isOpen (accessor.versionRequest effective)) :=
      ⟨requests_dispatch _, server_dispatch _⟩
    simp only
    split <;> exact dispatched

/-- With a timeout that is not accepted, asking for the version fails, and nothing is done for it. -/
theorem version_of_refused (refused : Timeout.IsRefused timeout) :
    ∃ failure, accessor.version serve isOpen timeout transcript = (.error failure, transcript) := by
  obtain ⟨failure, isFailure⟩ : ∃ failure,
      Timeout.effective accessor.timeout timeout = .error failure :=
    Timeout.effective_eq_error_iff.2 refused
  exact ⟨failure, by simp only [version, isFailure]⟩

/-- The version of a server is not known when the client has been closed. -/
theorem version_of_closed (accepted : ¬ Timeout.IsRefused timeout) :
    (accessor.version serve false timeout transcript).1 = .ok versionUnknown := by
  cases isEffective : Timeout.effective accessor.timeout timeout with
  | error failure => exact absurd (Timeout.effective_eq_error_iff.1 ⟨failure, isEffective⟩) accepted
  | ok effective =>
    simp only [version, isEffective]
    cases urlOf accessor.versionAddress none <;> rfl

end Accessor

namespace Session

variable {State : Type} {serve : Server State} {session : Session} {transcript : Transcript State}

/-- What can be done with a session. -/
inductive Action where
  | perform (call : Call)
  | version (timeout : Option TimeoutSetting)
  | enter
  | leave
  | close
  /-- The client itself is closed, by whoever has it. -/
  | closeClient
deriving DecidableEq

/-- What an action gives. -/
inductive Result where
  | outcome (result : Except Failure (Outcome String))
  | version (result : Except Failure String)
  | done

namespace Action

/-- The timeout that an action asks for. -/
def timeout : Action → Option TimeoutSetting
  | .perform call => call.timeout
  | .version timeout => timeout
  | _ => none

/-- The requests of an action on a session, known before they are sent. -/
def requests (session : Session) : Action → List Request
  | .perform call => session.accessor.requestsOf session.isOpen call
  | .version timeout => session.accessor.versionRequests session.isOpen timeout
  | _ => []

/-- An action is refused for its timeout, or for a key that is no text. -/
def IsRefused : Action → Prop
  | .perform call => ¬ call.key.IsText ∨ Timeout.IsRefused call.timeout
  | .version timeout => Timeout.IsRefused timeout
  | _ => False

/-- The key of an action is a text, its timeout is accepted, and no number in it has too many
digits. -/
def IsOrderly : Action → Prop
  | .perform call => call.key.IsText ∧ call.operation.IsSmall ∧ ¬ Timeout.IsRefused call.timeout
  | .version timeout => ¬ Timeout.IsRefused timeout
  | _ => True

/-- The key of an action, or what it writes, cannot be written in UTF-8. -/
def IsBroken (accessor : Accessor) : Action → Prop
  | .perform call => ∃ fault, Accessor.Breaks accessor call.operation call.key fault
  | _ => False

end Action

namespace Result

/-- An action fails. -/
def IsFailure : Result → Prop
  | .outcome result => ∃ failure, result = .error failure
  | .version result => ∃ failure, result = .error failure
  | .done => False

/-- An action tells that there was no answer: an operation by an error of the network and no status,
and the version by a text in its place. -/
def IsUnanswered : Result → Prop
  | .outcome result => ∃ outcome error, result = .ok outcome ∧ outcome.status = none ∧
      outcome.error = some error ∧ error.kind = .network
  | .version result => result = .ok Accessor.versionUnknown
  | .done => True

end Result

/-- Do what is asked for. -/
def act (serve : Server State) (session : Session) (transcript : Transcript State) :
    Action → Result × Session × Transcript State
  | .perform call =>
    let (result, after) := session.perform serve call transcript
    (.outcome result, session, after)
  | .version timeout =>
    let (result, after) := session.version serve timeout transcript
    (.version result, session, after)
  | .enter => (.done, session.enter, transcript)
  | .leave => (.done, session.leave, transcript)
  | .close => (.done, session.close, transcript)
  | .closeClient => (.done, session.closeClient, transcript)

/-- An action with what was there before it and what is there after it. -/
structure Step (State : Type) where
  action : Action
  session : Session
  transcript : Transcript State
  result : Result
  next : Session
  after : Transcript State

/-- The step of an action. -/
def step (serve : Server State) (session : Session) (transcript : Transcript State)
    (action : Action) : Step State where
  action := action
  session := session
  transcript := transcript
  result := (act serve session transcript action).1
  next := (act serve session transcript action).2.1
  after := (act serve session transcript action).2.2

/-- The steps of actions, one after the other. -/
def run (serve : Server State) : List Action → Session → Transcript State → List (Step State)
  | [], _, _ => []
  | action :: later, session, transcript =>
    let taken := step serve session transcript action
    taken :: run serve later taken.next taken.after

namespace Step

/-- A step sends the requests of its action, of which there is at most one, on an open client and
with the timeout that the action asks for; each takes one reply from the server. -/
structure IsRoundTrip (serve : Server State) (step : Step State) : Prop where
  atMostOne : (step.action.requests step.session).length ≤ 1
  timely : ∀ request ∈ step.action.requests step.session, step.session.isOpen = true ∧
    Timeout.IsFor step.session.accessor.timeout step.action.timeout request.timeout
  requests : step.after.requests =
    step.transcript.requests ++ step.action.requests step.session
  server : step.after.server =
    serve.after step.transcript.server (step.action.requests step.session)

/-- A step on a client that has been closed sends nothing, tells so unless it cannot be written in
UTF-8, and leaves the client as it is. -/
structure IsSilent (step : Step State) : Prop where
  closed : step.session.isOpen = false
  stays : step.next = step.session
  requests : step.after.requests = step.transcript.requests
  server : step.after.server = step.transcript.server
  unanswered : step.action.IsOrderly → ¬ step.action.IsBroken step.session.accessor →
    step.result.IsUnanswered

/-- What a step does. -/
structure IsLawful (serve : Server State) (step : Step State) : Prop where
  roundTrip : step.IsRoundTrip serve
  /-- What is refused fails, and nothing is done for it. -/
  refused : step.action.IsRefused → step.result.IsFailure ∧ step.after = step.transcript
  /-- What cannot be written in UTF-8 fails, and nothing is done for it. -/
  broken : step.action.IsOrderly → step.action.IsBroken step.session.accessor →
    step.result.IsFailure ∧ step.after = step.transcript
  /-- An accessor that is closed, or left, closes a client of its own and no other. -/
  closing : step.action = .close ∨ step.action = .leave →
    step.after = step.transcript ∧
      step.next = { step.session with
        isOpen := step.session.isOpen && !step.session.ownsClient }
  closingClient : step.action = .closeClient →
    step.after = step.transcript ∧ step.next = { step.session with isOpen := false }
  /-- Nothing else changes the session. -/
  unchanged : step.action ≠ .close → step.action ≠ .leave → step.action ≠ .closeClient →
    step.next = step.session
  silent : step.session.isOpen = false → step.IsSilent

end Step

/-- Closing leaves the client open only if it was open and is not the accessor's own. -/
theorem close_eq (session : Session) :
    session.close = { session with isOpen := session.isOpen && !session.ownsClient } := by
  obtain ⟨accessor, ownsClient, isOpen⟩ := session
  cases ownsClient <;> simp [close, closeClient]

/-- An action has at most one request. -/
theorem length_requests_le (session : Session) (action : Action) :
    (action.requests session).length ≤ 1 := by
  cases action with
  | perform call => exact (session.accessor.requestsOf_spec session.isOpen call).1
  | version timeout => exact (session.accessor.versionRequests_spec session.isOpen timeout).1
  | _ => exact Nat.zero_le 1

/-- A request of an action is sent on an open client, with the timeout that the action asks for. -/
theorem timely_of_mem_requests {action : Action} {request : Request}
    (isRequest : request ∈ action.requests session) :
    session.isOpen = true ∧
      Timeout.IsFor session.accessor.timeout action.timeout request.timeout := by
  cases action with
  | perform call => exact Accessor.timeout_of_mem_requestsOf isRequest
  | version timeout =>
    exact (session.accessor.versionRequests_spec session.isOpen timeout).2 request isRequest
  | _ => cases isRequest

/-- An action sends its requests, and leaves the server where they leave it. -/
theorem isRoundTrip_step (action : Action) :
    (step serve session transcript action).IsRoundTrip serve := by
  refine ⟨length_requests_le session action, fun _ => timely_of_mem_requests, ?_, ?_⟩
  · cases action with
    | perform call => exact Accessor.requests_perform
    | version timeout => exact Accessor.sent_version.1
    | _ => exact (List.append_nil _).symm
  · cases action with
    | perform call => exact Accessor.server_perform session.accessor call
    | version timeout => exact Accessor.sent_version.2
    | _ => rfl

/-- An action on a client that has been closed has no requests. -/
theorem requests_of_closed (closed : session.isOpen = false) (action : Action) :
    action.requests session = [] := by
  refine List.eq_nil_iff_forall_not_mem.2 fun request isRequest => ?_
  have opened : session.isOpen = true := (timely_of_mem_requests isRequest).1
  simp [closed] at opened

/-- An action with orderly arguments tells that a client that has been closed does not answer, if it
can be written in UTF-8. -/
theorem isUnanswered_of_closed {action : Action} (closed : session.isOpen = false)
    (orderly : action.IsOrderly) (unbroken : ¬ action.IsBroken session.accessor) :
    (act serve session transcript action).1.IsUnanswered := by
  cases action with
  | perform call =>
    obtain ⟨operation, key, timeout⟩ := call
    obtain ⟨isText, isSmall, accepted⟩ := orderly
    simp only [act, Session.perform, closed]
    cases isText with
    | whole key =>
      exact Accessor.exists_unanswered_of_closed isSmall accepted (not_exists.1 unbroken)
    | broken text => exact absurd ⟨_, .key text⟩ unbroken
  | version timeout =>
    simp only [act, Session.version, closed]
    exact Accessor.version_of_closed orderly
  | _ => trivial

/-- No action opens a client that has been closed. -/
theorem next_of_closed {action : Action} (closed : session.isOpen = false) :
    (act serve session transcript action).2.1 = session := by
  have alreadyClosed : { session with isOpen := false } = session := by rw [← closed]
  cases action with
  | leave => simpa [act, leave, close_eq, closed] using alreadyClosed
  | close => simpa [act, close_eq, closed] using alreadyClosed
  | closeClient => exact alreadyClosed
  | _ => rfl

/-- A step on a client that has been closed is silent. -/
theorem isSilent_step {action : Action} (closed : session.isOpen = false) :
    (step serve session transcript action).IsSilent := by
  obtain ⟨-, -, requests, server⟩ : (step serve session transcript action).IsRoundTrip serve :=
    isRoundTrip_step action
  have noRequests : (step serve session transcript action).action.requests
      (step serve session transcript action).session = [] := requests_of_closed closed action
  rw [noRequests] at requests server
  exact ⟨closed, next_of_closed closed, requests.trans (List.append_nil _), server,
    isUnanswered_of_closed closed⟩

/-- An action that is refused fails, and nothing is done for it. -/
theorem act_of_refused {action : Action} (refused : action.IsRefused) :
    (act serve session transcript action).1.IsFailure ∧
      (act serve session transcript action).2.2 = transcript := by
  cases action with
  | perform call =>
    have refusedKey : (∀ key, call.key ≠ .text key) ∨ Timeout.IsRefused call.timeout :=
      refused.imp_left fun notText key isKey => notText (isKey ▸ .whole key)
    obtain ⟨failure, performed⟩ : ∃ failure,
        session.accessor.perform serve session.isOpen call transcript =
          (.error failure, transcript) := Accessor.perform_of_refused refusedKey
    simp only [act, Session.perform, performed, and_true]
    exact ⟨failure, rfl⟩
  | version timeout =>
    obtain ⟨failure, asked⟩ : ∃ failure,
        session.accessor.version serve session.isOpen timeout transcript =
          (.error failure, transcript) := Accessor.version_of_refused refused
    simp only [act, Session.version, asked, and_true]
    exact ⟨failure, rfl⟩
  | _ => exact refused.elim

/-- An action that cannot be written in UTF-8 fails, and nothing is done for it. -/
theorem act_of_broken {action : Action} (orderly : action.IsOrderly)
    (broken : action.IsBroken session.accessor) :
    (act serve session transcript action).1.IsFailure ∧
      (act serve session transcript action).2.2 = transcript := by
  cases action with
  | perform call =>
    obtain ⟨operation, key, timeout⟩ := call
    obtain ⟨-, isSmall, accepted⟩ := orderly
    obtain ⟨fault, breaks⟩ := broken
    obtain ⟨effective, isEffective⟩ :=
      Accessor.exists_effective_of_accepted session.accessor accepted
    simp only [act, Session.perform, Accessor.perform,
      Accessor.prepare_of_breaks isSmall isEffective breaks, and_true]
    exact ⟨_, rfl⟩
  | _ => exact broken.elim

/-- Every step does what is said of it. -/
theorem isLawful_step (serve : Server State) (session : Session) (transcript : Transcript State)
    (action : Action) : (step serve session transcript action).IsLawful serve where
  roundTrip := isRoundTrip_step action
  refused := act_of_refused
  broken := act_of_broken
  closing asked := by
    rcases asked with rfl | rfl
    · exact ⟨rfl, close_eq session⟩
    · exact ⟨rfl, close_eq session⟩
  closingClient asked := by
    obtain rfl : action = .closeClient := asked
    exact ⟨rfl, rfl⟩
  unchanged notClose notLeave notCloseClient := by
    cases action with
    | leave => exact absurd rfl notLeave
    | close => exact absurd rfl notClose
    | closeClient => exact absurd rfl notCloseClient
    | _ => rfl
  silent := isSilent_step

/-- A step keeps the accessor, and whose client it is. -/
theorem kept_step (action : Action) :
    (step serve session transcript action).next.accessor = session.accessor ∧
      (step serve session transcript action).next.ownsClient = session.ownsClient := by
  cases action with
  | leave => simp [step, act, leave, close_eq]
  | close => simp [step, act, close_eq]
  | _ => exact ⟨rfl, rfl⟩

/-- Every step of a run does what is said of it, with the accessor that the run began with. -/
theorem isLawful_of_mem_run (actions : List Action) :
    ∀ taken ∈ run serve actions session transcript, taken.IsLawful serve ∧
      taken.session.accessor = session.accessor ∧
      taken.session.ownsClient = session.ownsClient := by
  induction actions generalizing session transcript with
  | nil => simp [run]
  | cons action later inductionHypothesis =>
    intro taken isTaken
    rcases List.mem_cons.1 isTaken with rfl | isLater
    · exact ⟨isLawful_step serve session transcript action, rfl, rfl⟩
    · obtain ⟨lawful, sameAccessor, sameOwner⟩ := inductionHypothesis taken isLater
      obtain ⟨keptAccessor, keptOwner⟩ : (step serve session transcript action).next.accessor =
            session.accessor ∧
          (step serve session transcript action).next.ownsClient = session.ownsClient :=
        kept_step action
      exact ⟨lawful, sameAccessor.trans keptAccessor, sameOwner.trans keptOwner⟩

/-- A step of a run ends where the run of the later ones begins. -/
theorem later_of_run (actions : List Action) {earlier later : List (Step State)}
    {taken : Step State}
    (isRun : run serve actions session transcript = earlier ++ taken :: later) :
    ∃ laterActions, later = run serve laterActions taken.next taken.after := by
  induction actions generalizing session transcript earlier with
  | nil => simp [run] at isRun
  | cons action rest inductionHypothesis =>
    cases earlier with
    | nil =>
      obtain ⟨rfl, rfl⟩ := List.cons.inj isRun
      exact ⟨rest, rfl⟩
    | cons first between => exact inductionHypothesis (List.cons.inj isRun).2

/-- Every step of a run that begins with a client that has been closed is silent, and leaves the
requests and the server as they were in the beginning. -/
theorem isSilent_of_mem_run (actions : List Action) (closed : session.isOpen = false) :
    ∀ taken ∈ run serve actions session transcript, taken.IsSilent ∧
      taken.after.requests = transcript.requests ∧ taken.after.server = transcript.server := by
  induction actions generalizing transcript with
  | nil => simp [run]
  | cons action later inductionHypothesis =>
    intro taken isTaken
    have silent : (step serve session transcript action).IsSilent := isSilent_step closed
    rcases List.mem_cons.1 isTaken with rfl | isLater
    · exact ⟨silent, silent.requests, silent.server⟩
    · rw [silent.stays] at isLater
      obtain ⟨laterSilent, sameRequests, sameServer⟩ := inductionHypothesis taken isLater
      exact ⟨laterSilent, sameRequests.trans silent.requests, sameServer.trans silent.server⟩

/-- What holds of every run of a session. Every step does what is said of it, with the accessor that
the run began with, and begins where the step before it ended. When one has left the client closed,
all later ones are silent, and neither send a request nor take a reply any more. -/
theorem lawful_run (serve : Server State) (session : Session) (transcript : Transcript State)
    (actions : List Action) :
    (∀ step ∈ run serve actions session transcript, step.IsLawful serve ∧
      step.session.accessor = session.accessor ∧ step.session.ownsClient = session.ownsClient) ∧
    (∀ earlier step next later, run serve actions session transcript =
        earlier ++ step :: next :: later →
      next.session = step.next ∧ next.transcript = step.after) ∧
    ∀ earlier step later, run serve actions session transcript = earlier ++ step :: later →
      step.next.isOpen = false →
        ∀ silent ∈ later, silent.IsSilent ∧ silent.after.requests = step.after.requests ∧
          silent.after.server = step.after.server := by
  refine ⟨isLawful_of_mem_run actions, ?_, ?_⟩
  · intro earlier step next later isRun
    obtain ⟨laterActions, isLater⟩ := later_of_run actions isRun
    cases laterActions with
    | nil => simp [run] at isLater
    | cons action rest =>
      obtain ⟨rfl, -⟩ := List.cons.inj isLater
      exact ⟨rfl, rfl⟩
  · intro earlier step later isRun closed
    obtain ⟨laterActions, rfl⟩ := later_of_run actions isRun
    exact isSilent_of_mem_run laterActions closed

/-- A read on a client that has been closed, of a key that cannot be written, has no outcome to tell
that there was no answer. -/
theorem exists_read_without_outcome :
    ∃ failure, ({ accessor := Accessor.standard, ownsClient := true, isOpen := false } :
        Session).perform Script.serve ⟨.read, .broken BrokenText.single, none⟩ { server := [] } =
      (.error failure, { server := [] }) :=
  ⟨_, rfl⟩

end Session

end Keyspace
