import Keyspace.Accessor
import Keyspace.Proofs.Answer
import Keyspace.Proofs.Outcome

/-!
# The stages of an operation

Performing an operation is opened here once, stage by stage: what an attempt is prepared from, what
is sent for it, and how the reply to it becomes an outcome with an event. Later proofs ask these
lemmas and not the definitions.
-/

namespace Keyspace

namespace Operation

/-- The entries of a successful answer, unless something is wrong with it. -/
def entries (operation : Operation) (key source : String) (members : List (String × Document)) :
    Except AnswerFault (List (String × String)) :=
  match operation with
  | .read => Answer.ofRead key members
  | .write .. => Answer.ofWrite key members
  | .remove => Answer.ofRemove key members
  | .readTree _ => Answer.ofListing source members

theorem result_fill (operation : Operation) (key source : String)
    (members : List (String × Document)) :
    (operation.fill key source members).result = operation.entries key source members := by
  cases operation with
  | read => exact Answer.result_fillRead key members
  | write value lifetime => exact Answer.result_fillWrite key members
  | remove => exact Answer.result_fillRemove key members
  | readTree recursive => exact Answer.result_fillListing source members

theorem form?_write_text (value : String) (lifetime : Argument) :
    (Operation.write (.text value) lifetime).form? = lifetime.sendable.map fun lifetime =>
      some (Form.write (formFields (.text value) lifetime)) := by
  cases lifetime <;> rfl

end Operation

namespace Accessor

variable {State : Type} {serve : Server State} {accessor : Accessor} {isOpen : Bool} {call : Call}
  {transcript : Transcript State} {attempt : Attempt}

/-- What an attempt at a call consists of. -/
structure IsAttempt (accessor : Accessor) (call : Call) (attempt : Attempt) : Prop where
  key : call.key = .text attempt.key
  operation : attempt.operation = call.operation
  address : attempt.address = accessor.keyAddress attempt.key
  /-- Either the address is no URL, or there is a request with it. -/
  request : match attempt.request with
    | .error fault => urlOf attempt.address call.operation.query? = .error fault
    | .ok request => urlOf attempt.address call.operation.query? = .ok request.url ∧
        request.method = call.operation.method ∧ call.operation.form? = .ok request.form ∧
        Timeout.effective accessor.timeout call.timeout = .ok request.timeout

/-- Preparing a call makes an attempt at it. -/
theorem isAttempt_of_prepare (prepared : accessor.prepare call = .ok attempt) :
    IsAttempt accessor call attempt := by
  simp only [prepare, bind, Except.bind] at prepared
  split at prepared
  · simp at prepared
  split at prepared
  · simp at prepared
  next key isKey =>
  rw [Argument.key_eq_ok_iff] at isKey
  split at prepared
  · simp at prepared
  next timeout isTimeout =>
  split at prepared
  · next fault notUrl =>
    simp only [pure, Except.pure, Except.ok.injEq] at prepared
    subst prepared
    exact ⟨isKey, rfl, rfl, notUrl⟩
  · next url isUrl =>
    split at prepared
    · simp at prepared
    next form isForm =>
    simp only [pure, Except.pure, Except.ok.injEq] at prepared
    subst prepared
    exact ⟨isKey, rfl, rfl, isUrl, rfl, isForm, isTimeout⟩

@[simp] theorem reply_exchange (request : Request) :
    (transcript.exchange serve request).1 = (serve transcript.server request).1 := by
  simp only [Transcript.exchange]
  split <;> simp_all

/-- The event of a reply to a request: an answer is one, and a fault in its place is none. -/
def answered (request : Request) : Reply → List Event
  | .ok response => [.answered request.method request.url.text response.status]
  | .error _ => []

theorem events_exchange (request : Request) :
    (transcript.exchange serve request).2.events =
      transcript.events ++ answered request (serve transcript.server request).1 := by
  simp only [Transcript.exchange]
  split <;> simp_all [Transcript.note, answered]

/-- What is sent for an attempt: its request, if it has one and the client is open. -/
def sent (isOpen : Bool) : Except Url.UrlFault Request → List Request
  | .ok request => if isOpen then [request] else []
  | .error _ => []

@[simp] theorem mem_sent_iff {request : Request} {attempted : Except Url.UrlFault Request} :
    request ∈ sent isOpen attempted ↔ isOpen = true ∧ attempted = .ok request := by
  cases attempted with
  | error fault => simp [sent]
  | ok ready => cases isOpen <;> simp [sent, eq_comm]

theorem length_sent_le (isOpen : Bool) (attempted : Except Url.UrlFault Request) :
    (sent isOpen attempted).length ≤ 1 := by
  cases attempted with
  | error fault => simp [sent]
  | ok ready => cases isOpen <;> simp [sent]

/-- An attempt sends at most its request. -/
theorem requests_dispatch (request : Except Url.UrlFault Request) :
    (dispatch serve isOpen request transcript).2.requests =
      transcript.requests ++ sent isOpen request := by
  cases request with
  | error fault => simp [dispatch, sent]
  | ok request =>
    cases isOpen with
    | false => simp [dispatch, sent]
    | true =>
      simp only [dispatch, sent, if_true, Transcript.exchange]
      split <;> rfl

/-- An operation sends what its attempt sends. -/
theorem requests_perform :
    (accessor.perform serve isOpen call transcript).2.requests =
      transcript.requests ++
        match accessor.prepare call with
        | .error _ => []
        | .ok attempt => sent isOpen attempt.request := by
  cases prepared : accessor.prepare call with
  | error failure => simp [perform, prepared]
  | ok attempt =>
    have dispatched : (dispatch serve isOpen attempt.request transcript).2.requests =
        transcript.requests ++ sent isOpen attempt.request := requests_dispatch attempt.request
    simp only [perform, prepared]
    split <;> exact dispatched

/-- An operation with an outcome concludes the reply to its attempt, and takes down one event. -/
theorem exists_attempt_of_perform {outcome : Outcome String}
    (performed : (accessor.perform serve isOpen call transcript).1 = .ok outcome) :
    ∃ attempt event, accessor.prepare call = .ok attempt ∧
      accessor.conclude attempt (dispatch serve isOpen attempt.request transcript).1 =
        .ok (outcome, event) ∧
      (accessor.perform serve isOpen call transcript).2 =
        (dispatch serve isOpen attempt.request transcript).2.note event := by
  cases prepared : accessor.prepare call with
  | error failure => simp [perform, prepared] at performed
  | ok attempt =>
    simp only [perform, prepared] at performed ⊢
    split at performed
    · simp at performed
    next concluded event isConcluded =>
    simp only [Except.ok.injEq] at performed
    subst performed
    exact ⟨attempt, event, rfl, isConcluded, rfl⟩

/-- The reply that an operation about a key meets, before it is concluded. -/
inductive Meets (serve : Server State) (accessor : Accessor) (isOpen : Bool) (operation : Operation)
    (key : String) (timeout : Option TimeoutSetting) (transcript : Transcript State) :
    Reply → Prop where
  /-- The address of the key is no URL. -/
  | notUrl {fault : Url.UrlFault}
      (isFault : urlOf (accessor.keyAddress key) operation.query? = .error fault) :
      Meets serve accessor isOpen operation key timeout transcript (.error (urlFault fault))
  /-- The client has been closed. -/
  | closed {url : Url} {form : Option String}
      (isUrl : urlOf (accessor.keyAddress key) operation.query? = .ok url)
      (isForm : operation.form? = .ok form) (isClosed : isOpen = false) :
      Meets serve accessor isOpen operation key timeout transcript (.error clientClosed)
  /-- The server replies to the request. -/
  | served (request : Request) (opened : isOpen = true)
      (isUrl : urlOf (accessor.keyAddress key) operation.query? = .ok request.url)
      (isMethod : request.method = operation.method)
      (isForm : operation.form? = .ok request.form)
      (isTimeout : Timeout.effective accessor.timeout timeout = .ok request.timeout) :
      Meets serve accessor isOpen operation key timeout transcript
        (serve transcript.server request).1

/-- What is dispatched for an attempt is what its operation meets. -/
theorem meets_dispatch (isAttempt : IsAttempt accessor call attempt) :
    Meets serve accessor isOpen attempt.operation attempt.key call.timeout transcript
      (dispatch serve isOpen attempt.request transcript).1 := by
  obtain ⟨-, isOperation, isAddress, isRequest⟩ := isAttempt
  rw [← isOperation, isAddress] at isRequest
  cases request : attempt.request with
  | error fault =>
    rw [request] at isRequest
    exact .notUrl isRequest
  | ok ready =>
    rw [request] at isRequest
    obtain ⟨isUrl, isMethod, isForm, isTimeout⟩ := isRequest
    cases isOpen with
    | false => exact .closed isUrl isForm rfl
    | true =>
      have reply : (dispatch serve true (.ok ready) transcript).1 =
          (serve transcript.server ready).1 := reply_exchange ready
      rw [reply]
      exact .served ready rfl isUrl isMethod isForm isTimeout

/-- An operation with an outcome has met a reply. -/
theorem exists_meets_of_perform {operation : Operation} {key : String}
    {timeout : Option TimeoutSetting} {outcome : Outcome String}
    (performed : (accessor.perform serve isOpen ⟨operation, .text key, timeout⟩ transcript).1 =
      .ok outcome) :
    ∃ reply, Meets serve accessor isOpen operation key timeout transcript reply := by
  obtain ⟨attempt, event, prepared, -⟩ := exists_attempt_of_perform performed
  have isAttempt := isAttempt_of_prepare prepared
  obtain rfl : key = attempt.key := by simpa using isAttempt.key
  obtain rfl : attempt.operation = operation := isAttempt.operation
  exact ⟨_, meets_dispatch isAttempt⟩

/-- An operation meets one reply. -/
theorem Meets.unique {operation : Operation} {key : String} {timeout : Option TimeoutSetting}
    {reply other : Reply}
    (meets : Meets serve accessor isOpen operation key timeout transcript reply)
    (meetsOther : Meets serve accessor isOpen operation key timeout transcript other) :
    reply = other := by
  cases meets with
  | notUrl isFault => cases meetsOther <;> simp_all
  | closed isUrl isForm isClosed => cases meetsOther <;> simp_all
  | served request opened isUrl isMethod isForm isTimeout =>
    cases meetsOther with
    | notUrl isFault => simp_all
    | closed _ _ isClosed => simp_all
    | served same _ sameUrl sameMethod sameForm sameTimeout =>
      have equal : request = same := by
        cases request
        cases same
        simp_all
      rw [equal]

/-- Sending a request adds no event of this library's own. -/
theorem ownEvents_dispatch (request : Except Url.UrlFault Request) :
    (dispatch serve isOpen request transcript).2.events.filter Event.isOwn =
      transcript.events.filter Event.isOwn := by
  cases request with
  | error fault => rfl
  | ok ready =>
    cases isOpen with
    | false => rfl
    | true =>
      have noOwn : (answered ready (serve transcript.server ready).1).filter Event.isOwn = [] := by
        cases (serve transcript.server ready).1 <;> simp [answered]
      simp only [dispatch, if_true]
      rw [events_exchange, List.filter_append, noOwn, List.append_nil]

/-- The entries in the body of a successful answer, unless something is wrong with it. -/
def readAnswer (accessor : Accessor) (attempt : Attempt)
    (body : Except Content.DecodingFault String) : Except AnswerFault (Entries String) := do
  let text ← body.mapError .undecodable
  let members ← Answer.members text
  let pairs ← attempt.operation.entries attempt.key accessor.source members
  return Entries.ofList pairs

theorem result_fillAnswer (accessor : Accessor) (attempt : Attempt)
    (body : Except Content.DecodingFault String) :
    (accessor.fillAnswer attempt body).result.map Entries.ofList =
      accessor.readAnswer attempt body := by
  rw [fillAnswer, readAnswer, Progress.result_after]
  cases body with
  | error fault => rfl
  | ok text =>
    simp only [Except.mapError, Except.bind, bind]
    rw [Progress.result_after]
    cases Answer.members text with
    | error fault => rfl
    | ok members =>
      simp only [Except.bind, Operation.result_fill]
      cases attempt.operation.entries attempt.key accessor.source members <;> rfl

/-- What has been filled in before a fault does not show in what an answer is concluded with. -/
theorem concludeResponse_eq (accessor : Accessor) (attempt : Attempt) (response : Response) :
    accessor.concludeResponse attempt response =
      let method := attempt.operation.method
      let outcome : Outcome String :=
        { key := attempt.key, source := accessor.source, status := some response.status }
      if response.status ∈ successStatuses then
        match accessor.readAnswer attempt response.decoded with
        | .ok entries =>
          ({ outcome with entries }, .requestCompleted method attempt.key entries.size)
        | .error fault =>
          let error := fault.error attempt.key
          ({ outcome with error := some error }, .answerNotUsable method attempt.key error)
      else (outcome, .requestNotOk method attempt.key response.status) := by
  simp only [concludeResponse, Outcome.isSuccess_some, decide_eq_true_eq, ← result_fillAnswer,
    Progress.result]
  split
  · cases (accessor.fillAnswer attempt response.decoded).fault <;> rfl
  · rfl

/-- An answer is read as the entries of the members in its text. -/
theorem readAnswer_eq_ok_iff {response : Response} {entries : Entries String} :
    accessor.readAnswer attempt response.decoded = .ok entries ↔
      ∃ members pairs, Json.read response.text = .ok (.object members) ∧
        attempt.operation.entries attempt.key accessor.source members = .ok pairs ∧
        entries = Entries.ofList pairs := by
  simp only [← Answer.members_eq_ok_iff]
  cases isText : response.decoded with
  | error fault =>
    have noMembers : ∀ members, Answer.members "" ≠ .ok members := nofun
    simp [readAnswer, Response.text_of_undecoded isText, noMembers, Except.mapError, bind,
      Except.bind]
  | ok text =>
    rw [Response.text_of_decoded isText]
    cases isMembers : Answer.members text with
    | error fault => simp [readAnswer, Except.mapError, isMembers, bind, Except.bind]
    | ok members =>
      cases isPairs : attempt.operation.entries attempt.key accessor.source members with
      | error fault => simp [readAnswer, Except.mapError, isMembers, isPairs, bind, Except.bind]
      | ok pairs =>
        simp [readAnswer, Except.mapError, isMembers, isPairs, bind, Except.bind, pure, Except.pure,
          eq_comm]

/-- The four ways in which an attempt is concluded with an outcome and an event. -/
inductive Concludes (accessor : Accessor) (attempt : Attempt) :
    Reply → Outcome String → Event → Prop where
  /-- A fault of the transport is captured. -/
  | unanswered {fault : Fault} (isRequestFault : fault.kind.isRequestFault = true) :
      Concludes accessor attempt (.error fault)
        { key := attempt.key, source := accessor.source
          error := some (requestError attempt fault) }
        (.requestFailed attempt.operation.method attempt.key attempt.address fault)
  /-- The body of an answer without success is not read. -/
  | refused {response : Response} (noSuccess : response.status ∉ successStatuses) :
      Concludes accessor attempt (.ok response)
        { key := attempt.key, source := accessor.source, status := some response.status }
        (.requestNotOk attempt.operation.method attempt.key response.status)
  /-- What is wrong with a body is captured. -/
  | unusable {response : Response} {fault : AnswerFault}
      (success : response.status ∈ successStatuses)
      (isRead : accessor.readAnswer attempt response.decoded = .error fault) :
      Concludes accessor attempt (.ok response)
        { key := attempt.key, source := accessor.source, status := some response.status
          error := some (fault.error attempt.key) }
        (.answerNotUsable attempt.operation.method attempt.key (fault.error attempt.key))
  /-- The entries in a body are kept. -/
  | understood {response : Response} {entries : Entries String}
      (success : response.status ∈ successStatuses)
      (isRead : accessor.readAnswer attempt response.decoded = .ok entries) :
      Concludes accessor attempt (.ok response)
        { key := attempt.key, source := accessor.source, status := some response.status, entries }
        (.requestCompleted attempt.operation.method attempt.key entries.size)

/-- An outcome with its event was concluded in one of the four ways. -/
theorem concludes_of_conclude {reply : Reply} {outcome : Outcome String} {event : Event}
    (concluded : accessor.conclude attempt reply = .ok (outcome, event)) :
    Concludes accessor attempt reply outcome event := by
  cases reply with
  | error fault =>
    simp only [conclude] at concluded
    split at concluded
    · next isRequestFault =>
      cases concluded
      exact .unanswered isRequestFault
    · simp at concluded
  | ok response =>
    simp only [conclude] at concluded
    split at concluded
    · simp at concluded
    simp only [concludeResponse_eq, Except.ok.injEq] at concluded
    split at concluded
    · next success =>
      split at concluded
      · next entries isRead =>
        cases concluded
        exact .understood success isRead
      · next fault isRead =>
        cases concluded
        exact .unusable success isRead
    · next noSuccess =>
      cases concluded
      exact .refused noSuccess

/-- The fault with which a reply ends an operation: one of the transport that is not captured, or
that of an answer with success whose codec gives no text. -/
def endingFault? : Reply → Option Fault
  | .ok response =>
    if response.status ∈ successStatuses ∧ response.decoded? = none then some Fault.noText else none
  | .error fault => if fault.kind.isRequestFault then none else some fault

/-- An answer whose text is that of a document ends no operation. -/
theorem endingFault?_of_read {response : Response} {document : Document}
    (isDocument : Json.read response.text = .ok document) : endingFault? (.ok response) = none := by
  have isText := Response.text?_eq_some_iff.1 (Response.text?_of_read isDocument)
  simp [endingFault?, isText]

theorem endingFault?_ofDocument (status : Int) (document : Document) :
    endingFault? (.ok (.ofDocument status document)) = none := by
  simp [endingFault?, Response.decoded?_ofDocument]

/-- An attempt is concluded with the ending fault of the reply, if it has one. -/
theorem conclude_of_endingFault {reply : Reply} {fault : Fault}
    (ends : endingFault? reply = some fault) :
    accessor.conclude attempt reply = .error (.ofFault fault) := by
  cases reply with
  | ok response =>
    simp only [endingFault?, Option.ite_none_right_eq_some, Option.some.injEq] at ends
    obtain ⟨⟨success, noText⟩, rfl⟩ := ends
    simp [conclude, success, noText, Failure.ofFault, Fault.noText]
  | error raised =>
    simp only [endingFault?, Option.ite_none_left_eq_some, Option.some.injEq] at ends
    obtain ⟨notCaptured, rfl⟩ := ends
    exact if_neg notCaptured

/-- An answer that does not end the operation is concluded. -/
theorem conclude_of_answer {response : Response}
    (goesOn : endingFault? (.ok response) = none) :
    accessor.conclude attempt (.ok response) =
      .ok (accessor.concludeResponse attempt response) := by
  simp only [endingFault?, ite_eq_right_iff, reduceCtorEq, imp_false] at goesOn
  refine if_neg fun ends => goesOn ?_
  simpa using ends

/-- An attempt is concluded well with every reply that does not end it. -/
theorem exists_conclude_of_goesOn (accessor : Accessor) (attempt : Attempt) {reply : Reply}
    (goesOn : endingFault? reply = none) :
    ∃ concluded, accessor.conclude attempt reply = .ok concluded := by
  cases reply with
  | ok response => exact ⟨_, conclude_of_answer goesOn⟩
  | error fault =>
    have captured : fault.kind.isRequestFault = true := by simpa [endingFault?] using goesOn
    exact ⟨_, if_pos captured⟩

/-- What an attempt is concluded with is about its key and tells the source of the accessor. -/
theorem Concludes.about {reply : Reply} {outcome : Outcome String} {event : Event}
    (concludes : Concludes accessor attempt reply outcome event) :
    outcome.key = attempt.key ∧ outcome.source = accessor.source := by
  cases concludes <;> exact ⟨rfl, rfl⟩

/-- A call is prepared when nothing is wrong with its lifetime, its key, its timeout, its address
and its form. -/
theorem prepare_eq_ok {operation : Operation} {key : String} {timeout : Option TimeoutSetting}
    {effective : Timeout} {url : Url} {form : Option String}
    (isLifetime : operation.checkLifetime = .ok ())
    (isTimeout : Timeout.effective accessor.timeout timeout = .ok effective)
    (isUrl : urlOf (accessor.keyAddress key) operation.query? = .ok url)
    (isForm : operation.form? = .ok form) :
    accessor.prepare ⟨operation, .text key, timeout⟩ =
      .ok { operation, key, address := accessor.keyAddress key
            request := .ok { method := operation.method, url, form, timeout := effective } } := by
  simp only [prepare, bind, Except.bind, Argument.key_text, isLifetime, isTimeout, isUrl, isForm]
  rfl

/-- A call is prepared as well when its address is no URL. Then its form is not written. -/
theorem prepare_of_notUrl {operation : Operation} {key : String} {timeout : Option TimeoutSetting}
    {effective : Timeout} {fault : Url.UrlFault} (isLifetime : operation.checkLifetime = .ok ())
    (isTimeout : Timeout.effective accessor.timeout timeout = .ok effective)
    (isFault : urlOf (accessor.keyAddress key) operation.query? = .error fault) :
    accessor.prepare ⟨operation, .text key, timeout⟩ =
      .ok { operation, key, address := accessor.keyAddress key, request := .error fault } := by
  simp only [prepare, bind, Except.bind, Argument.key_text, isLifetime, isTimeout, isFault]
  rfl

/-- An answer of the server to the request of an attempt is concluded unless it ends the operation,
and the server goes on. -/
theorem perform_of_answer {request : Request} {response : Response} {after : State}
    (prepared : accessor.prepare call = .ok attempt) (isRequest : attempt.request = .ok request)
    (answered : serve transcript.server request = (.ok response, after))
    (goesOn : endingFault? (.ok response) = none) :
    (accessor.perform serve true call transcript).1 =
        .ok (accessor.concludeResponse attempt response).1 ∧
      (accessor.perform serve true call transcript).2.server = after := by
  have exchanged : transcript.exchange serve request =
      (.ok response, { transcript with
        server := after
        requests := transcript.requests ++ [request]
        events := transcript.events ++
          [.answered request.method request.url.text response.status] }) := by
    simp only [Transcript.exchange, answered]
    rfl
  constructor
  · simp only [perform, prepared, dispatch, isRequest, if_true, exchanged,
      conclude_of_answer goesOn]
  · simp only [perform, prepared, dispatch, isRequest, if_true, exchanged,
      conclude_of_answer goesOn]
    rfl

/-- An attempt comes to an outcome unless it meets a reply that ends it. -/
theorem exists_outcome_of_goesOn (prepared : accessor.prepare call = .ok attempt)
    (goesOn : endingFault? (dispatch serve isOpen attempt.request transcript).1 = none) :
    ∃ outcome, (accessor.perform serve isOpen call transcript).1 = .ok outcome := by
  obtain ⟨concluded, isConcluded⟩ := exists_conclude_of_goesOn accessor attempt goesOn
  exact ⟨concluded.1, by simp only [perform, prepared, isConcluded]⟩

/-- An attempt that meets a fault of the transport comes to an outcome with it. -/
theorem exists_unanswered_of_fault {fault : Fault} (prepared : accessor.prepare call = .ok attempt)
    (met : (dispatch serve isOpen attempt.request transcript).1 = .error fault)
    (captured : fault.kind.isRequestFault = true) :
    ∃ outcome, (accessor.perform serve isOpen call transcript).1 = .ok outcome ∧
      outcome.status = none ∧ outcome.error = some (requestError attempt fault) := by
  have goesOn : endingFault? (dispatch serve isOpen attempt.request transcript).1 = none := by
    rw [met]
    exact if_pos captured
  obtain ⟨outcome, performed⟩ := exists_outcome_of_goesOn prepared goesOn
  obtain ⟨same, event, isSame, concluded, -⟩ := exists_attempt_of_perform performed
  obtain rfl : attempt = same := by simpa [prepared] using isSame
  rw [met] at concluded
  cases concludes_of_conclude concluded with
  | unanswered _ => exact ⟨_, performed, rfl, rfl⟩

/-- A result that shows something is there to show it. -/
theorem exists_ok_of_toOption {α β ε : Type} {result : Except ε α} {shown : α → β} {value : β}
    (evaluated : result.toOption.map shown = some value) :
    ∃ outcome, result = .ok outcome ∧ shown outcome = value := by
  cases result with
  | error failure => simp [Except.toOption] at evaluated
  | ok outcome => exact ⟨outcome, rfl, by simpa [Except.toOption] using evaluated⟩

theorem exists_ok_of_isSome {α ε : Type} {result : Except ε α}
    (evaluated : result.toOption.isSome = true) : ∃ outcome, result = .ok outcome := by
  cases result with
  | error failure => cases evaluated
  | ok outcome => exact ⟨outcome, rfl⟩

end Accessor

end Keyspace
