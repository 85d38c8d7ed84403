import Keyspace.Proofs.Accessor.Address
import Keyspace.Proofs.Accessor.Performing
import Keyspace.Proofs.Answer

/-!
# What leaves an operation in the place of an outcome

An operation on texts comes to an outcome on almost every reply. `perform_raises_iff` says when it
does not: where a half of a surrogate pair stands alone in its key or in what it writes, where the
server gives a fault that is not captured, which leaves the operation as it is, and where the server
gives an answer with success whose codec gives no text. None of this is taken down as an event of
this library.
-/

namespace Keyspace

@[simp] theorem Failure.toFault_ofFault (fault : Fault) : (Failure.ofFault fault).toFault = fault := by
  obtain ⟨kind, message⟩ := fault
  cases kind <;> rfl

/-- The text that is a half of a surrogate pair and nothing else. -/
def BrokenText.single : BrokenText := { before := [], half := 0, behind := [] }

/-- An argument is a text, be it whole or not. -/
inductive Argument.IsText : Argument → Prop where
  | whole (text : String) : IsText (.text text)
  | broken (text : BrokenText) : IsText (.broken text)

/-- An argument can be written out: it is no number of too many digits, and no half of a surrogate
pair stands alone in it. -/
def Argument.IsWritable : Argument → Prop
  | .document given => given.isOversized = false
  | .broken _ => False

instance : DecidablePred Argument.IsWritable
  | .document given => inferInstanceAs (Decidable (given.isOversized = false))
  | .broken _ => inferInstanceAs (Decidable False)

namespace Operation

/-- The arguments of an operation can be written out. -/
def IsWritable : Operation → Prop
  | .write value lifetime => value.IsWritable ∧ lifetime.IsWritable
  | _ => True

/-- No argument of an operation is a number of too many digits. -/
def IsSmall : Operation → Prop
  | .write value lifetime => value.isOversized = false ∧ lifetime.isOversized = false
  | _ => True

/-- What keeps an operation from being written in UTF-8: its value, or else its lifetime. -/
def broken? : Operation → Option BrokenText
  | .write (.broken value) _ => some value
  | .write _ (.broken lifetime) => some lifetime
  | _ => none

variable {operation : Operation}

theorem checkLifetime_of_isSmall (isSmall : operation.IsSmall) :
    operation.checkLifetime = .ok () := by
  cases operation with
  | write value lifetime => exact if_neg (by simp [isSmall.2])
  | _ => rfl

/-- What can be written out is not too large, and nothing in it is broken. -/
theorem isSmall_of_isWritable (isWritable : operation.IsWritable) :
    operation.IsSmall ∧ operation.broken? = none := by
  cases operation with
  | write value lifetime =>
    cases value with
    | broken text => exact isWritable.1.elim
    | document value =>
      cases lifetime with
      | broken text => exact isWritable.2.elim
      | document lifetime => exact ⟨isWritable, rfl⟩
  | _ => exact ⟨trivial, rfl⟩

/-- An operation in which nothing is broken has a form, or needs none. -/
theorem exists_form_of_unbroken (isSmall : operation.IsSmall) (unbroken : operation.broken? = none) :
    ∃ form, operation.form? = .ok form := by
  cases operation with
  | write value lifetime =>
    cases value with
    | broken text => cases unbroken
    | document value =>
      cases lifetime with
      | broken text => cases unbroken
      | document lifetime => exact ⟨_, if_neg (by simp [isSmall.1])⟩
  | _ => exact ⟨_, rfl⟩

/-- What is broken in an operation is the fault of its form. -/
theorem form?_of_broken {text : BrokenText} (isSmall : operation.IsSmall)
    (isBroken : operation.broken? = some text) :
    operation.form? = .error (.fault text.fault) := by
  cases operation with
  | write value lifetime =>
    cases value with
    | broken value =>
      cases isBroken
      rfl
    | document value =>
      cases lifetime with
      | broken lifetime =>
        cases isBroken
        exact if_neg (by simp [isSmall.1])
      | document lifetime => cases isBroken
  | _ => cases isBroken

end Operation

/-- Octets become neither a text nor a fault when there are any, and their codec turns them into
other octets. -/
theorem Content.decode?_eq_none_iff {mediaType : Option String} {elsewhere : Elsewhere}
    {octets : List UInt8} :
    Content.decode? mediaType elsewhere octets = none ↔
      Content.codec mediaType elsewhere = .ok .octets ∧ octets ≠ [] := by
  unfold Content.decode?
  split
  · next noOctets => simp [List.isEmpty_iff.1 noOctets]
  · next hasOctets =>
    have someOctets : octets ≠ [] := by simpa using hasOctets
    split <;> simp_all

namespace Accessor

variable {State : Type} {serve : Server State} {accessor : Accessor} {isOpen : Bool} {call : Call}
  {transcript : Transcript State} {attempt : Attempt} {fault : Fault}

/-- The keys and the operations that cannot be written in UTF-8, each with the fault of it. Where the
address of the key is no URL, the form of an operation is not written. -/
inductive Breaks (accessor : Accessor) (operation : Operation) : Argument → Fault → Prop where
  | key (text : BrokenText) : Breaks accessor operation (.broken text) text.segmentFault
  | form {key : String} {url : Url} {text : BrokenText}
      (isUrl : urlOf (accessor.keyAddress key) operation.query? = .ok url)
      (isBroken : operation.broken? = some text) :
      Breaks accessor operation (.text key) text.fault

variable {operation : Operation} {timeout : Option TimeoutSetting} {effective : Timeout}

/-- What cannot be written in UTF-8 is not prepared. -/
theorem prepare_of_breaks {key : Argument} (isSmall : operation.IsSmall)
    (isTimeout : Timeout.effective accessor.timeout timeout = .ok effective)
    (breaks : Breaks accessor operation key fault) :
    accessor.prepare ⟨operation, key, timeout⟩ = .error (.fault fault) := by
  have isLifetime := Operation.checkLifetime_of_isSmall isSmall
  cases breaks with
  | key text => simp only [prepare, isLifetime, bind, Except.bind, Argument.key]
  | form isUrl isBroken =>
    simp only [prepare, isLifetime, bind, Except.bind, Argument.key_text, isTimeout, isUrl,
      Operation.form?_of_broken isSmall isBroken]

/-- What can be written in UTF-8 is prepared with every timeout that is accepted. -/
theorem exists_attempt_of_unbroken (isSmall : operation.IsSmall)
    (isTimeout : Timeout.effective accessor.timeout timeout = .ok effective) {key : String}
    (unbroken : ∀ fault, ¬ Breaks accessor operation (.text key) fault) :
    ∃ attempt, accessor.prepare ⟨operation, .text key, timeout⟩ = .ok attempt := by
  have isLifetime := Operation.checkLifetime_of_isSmall isSmall
  cases isUrl : urlOf (accessor.keyAddress key) operation.query? with
  | ok url =>
    cases isBroken : operation.broken? with
    | some text => exact absurd (.form isUrl isBroken) (unbroken text.fault)
    | none =>
      obtain ⟨form, isForm⟩ := Operation.exists_form_of_unbroken isSmall isBroken
      exact ⟨_, prepare_eq_ok isLifetime isTimeout isUrl isForm⟩
  | error notUrl => exact ⟨_, prepare_of_notUrl isLifetime isTimeout isUrl⟩

/-- An operation whose arguments can be written out is prepared with every timeout that is
accepted. -/
theorem exists_attempt_of_isWritable (isWritable : operation.IsWritable)
    (isTimeout : Timeout.effective accessor.timeout timeout = .ok effective) (key : String) :
    ∃ attempt, accessor.prepare ⟨operation, .text key, timeout⟩ = .ok attempt := by
  obtain ⟨isSmall, unbroken⟩ := Operation.isSmall_of_isWritable isWritable
  refine exists_attempt_of_unbroken isSmall isTimeout fun fault breaks => ?_
  cases breaks with
  | form isUrl isBroken => simp [unbroken] at isBroken

/-- Only a server ends an operation: an address that is no URL and a client that has been closed
do not. -/
theorem exists_request_of_endingFault {request : Except Url.UrlFault Request}
    (ends : endingFault? (dispatch serve isOpen request transcript).1 = some fault) :
    ∃ ready, sent isOpen request = [ready] ∧
      (serve transcript.server ready).1 = (dispatch serve isOpen request transcript).1 := by
  cases request with
  | error notUrl => simp [dispatch, endingFault?, urlFault, FaultKind.isRequestFault] at ends
  | ok ready =>
    cases isOpen with
    | false => simp [dispatch, endingFault?, clientClosed, FaultKind.isRequestFault] at ends
    | true => exact ⟨ready, rfl, (reply_exchange ready).symm⟩

/-- A fault in the place of an answer is no event. -/
theorem events_dispatch_of_error {request : Except Url.UrlFault Request}
    (isFault : (dispatch serve isOpen request transcript).1 = .error fault) :
    (dispatch serve isOpen request transcript).2.events = transcript.events := by
  cases request with
  | error notUrl => rfl
  | ok ready =>
    cases isOpen with
    | false => rfl
    | true =>
      have replied : (serve transcript.server ready).1 = .error fault :=
        (reply_exchange ready).symm.trans isFault
      refine (events_exchange ready).trans ?_
      rw [replied, answered, List.append_nil]

/-- An attempt that meets a reply with an ending fault leaves nothing but what was dispatched. -/
theorem perform_of_endingFault (prepared : accessor.prepare call = .ok attempt)
    (ends : endingFault? (dispatch serve isOpen attempt.request transcript).1 = some fault) :
    accessor.perform serve isOpen call transcript =
      (.error (.ofFault fault), (dispatch serve isOpen attempt.request transcript).2) := by
  simp only [perform, prepared, conclude_of_endingFault ends]

/-- The replies that end an operation, each with its fault. -/
inductive Ends : Reply → Fault → Prop where
  /-- A fault that is none of a request. -/
  | unanswered {fault : Fault} (notCaptured : fault.kind.isRequestFault = false) :
      Ends (.error fault) fault
  /-- An answer with success, whose body is read with a codec that gives no text. -/
  | noText {response : Response} (success : response.status ∈ successStatuses)
      (hasBody : response.body ≠ [])
      (isCodec : Content.codec response.contentType response.elsewhere = .ok .octets) :
      Ends (.ok response) Fault.noText

/-- The replies with an ending fault are those that end an operation. -/
theorem endingFault?_eq_some_iff {reply : Reply} :
    endingFault? reply = some fault ↔ Ends reply fault := by
  constructor
  · intro ends
    cases reply with
    | error raised =>
      simp only [endingFault?, Option.ite_none_left_eq_some, Option.some.injEq] at ends
      obtain ⟨notCaptured, rfl⟩ := ends
      exact .unanswered (Bool.eq_false_iff.2 notCaptured)
    | ok response =>
      simp only [endingFault?, Option.ite_none_right_eq_some, Option.some.injEq] at ends
      obtain ⟨⟨success, noText⟩, rfl⟩ := ends
      obtain ⟨isCodec, hasBody⟩ := Content.decode?_eq_none_iff.1 noText
      exact .noText success hasBody isCodec
  · intro ends
    cases ends with
    | unanswered notCaptured => simp [endingFault?, notCaptured]
    | noText success hasBody isCodec =>
      exact if_pos ⟨success, Content.decode?_eq_none_iff.2 ⟨isCodec, hasBody⟩⟩

/-- How a fault that a reply ends an operation with leaves it. -/
structure Raises (serve : Server State) (transcript : Transcript State) (reply : Reply)
    (fault : Fault) (result : Except Failure (Outcome String) × Transcript State) : Prop where
  raised : ∃ failure, result.1 = .error failure ∧ failure.toFault = fault
  /-- The server has given the reply to a request. -/
  replied : ∃ request, result.2.requests = transcript.requests ++ [request] ∧
    (serve transcript.server request).1 = reply
  noOwnEvent : result.2.events.filter Event.isOwn = transcript.events.filter Event.isOwn
  /-- In the place of an answer, the fault is not even an event of the transport. -/
  noEvent : reply = .error fault → result.2.events = transcript.events

/-- An attempt fails exactly when the reply that it meets ends it. Such a reply is one of the server,
and its fault leaves the operation without an event. -/
theorem raises_of_prepared (serve : Server State) (isOpen : Bool) (transcript : Transcript State)
    (prepared : accessor.prepare call = .ok attempt) :
    ((∃ failure, (accessor.perform serve isOpen call transcript).1 = .error failure) ↔
        ∃ fault, Ends (dispatch serve isOpen attempt.request transcript).1 fault) ∧
      ∀ fault, Ends (dispatch serve isOpen attempt.request transcript).1 fault →
        Raises serve transcript (dispatch serve isOpen attempt.request transcript).1 fault
          (accessor.perform serve isOpen call transcript) := by
  refine ⟨⟨?_, ?_⟩, ?_⟩
  · rintro ⟨failure, failed⟩
    cases ends : endingFault? (dispatch serve isOpen attempt.request transcript).1 with
    | some fault => exact ⟨fault, endingFault?_eq_some_iff.1 ends⟩
    | none =>
      obtain ⟨outcome, performed⟩ := exists_outcome_of_goesOn prepared ends
      rw [failed] at performed
      cases performed
  · rintro ⟨fault, ends⟩
    rw [perform_of_endingFault prepared (endingFault?_eq_some_iff.2 ends)]
    exact ⟨_, rfl⟩
  · intro fault ends
    have isEnding := endingFault?_eq_some_iff.2 ends
    obtain ⟨request, isSent, isReply⟩ := exists_request_of_endingFault isEnding
    rw [perform_of_endingFault prepared isEnding]
    exact {
      raised := ⟨_, rfl, Failure.toFault_ofFault fault⟩
      replied := ⟨request, by rw [requests_dispatch, isSent], isReply⟩
      noOwnEvent := ownEvents_dispatch attempt.request
      noEvent := events_dispatch_of_error }

/-- What breaks an operation keeps it from meeting a reply. -/
theorem Breaks.not_meets {key : String} {reply : Reply} (isSmall : operation.IsSmall)
    (breaks : Breaks accessor operation (.text key) fault) :
    ¬ Meets serve accessor isOpen operation key timeout transcript reply := by
  cases breaks with
  | form isUrl isBroken =>
    have noForm := Operation.form?_of_broken isSmall isBroken
    rintro ⟨⟩ <;> simp_all

/-- An operation about a text fails exactly when it cannot be written in UTF-8, or when the reply
that it meets ends it. In the first case nothing has happened but the fault. In the second the reply
is one of the server, and its fault leaves the operation without an event. -/
theorem perform_raises_iff (serve : Server State) (accessor : Accessor) (isOpen : Bool)
    {operation : Operation} (isSmall : operation.IsSmall) {key : Argument} (isText : key.IsText)
    {timeout : Option TimeoutSetting} {effective : Timeout}
    (isTimeout : Timeout.effective accessor.timeout timeout = .ok effective)
    (transcript : Transcript State) :
    ((∃ failure, (accessor.perform serve isOpen ⟨operation, key, timeout⟩ transcript).1 =
          .error failure) ↔
        (∃ fault, Breaks accessor operation key fault) ∨
          ∃ text reply fault, key = .text text ∧
            Meets serve accessor isOpen operation text timeout transcript reply ∧
            Ends reply fault) ∧
      (∀ fault, Breaks accessor operation key fault →
        accessor.perform serve isOpen ⟨operation, key, timeout⟩ transcript =
          (.error (.fault fault), transcript)) ∧
      ∀ text reply fault, key = .text text →
        Meets serve accessor isOpen operation text timeout transcript reply → Ends reply fault →
          Raises serve transcript reply fault
            (accessor.perform serve isOpen ⟨operation, key, timeout⟩ transcript) := by
  have broken : ∀ fault, Breaks accessor operation key fault →
      accessor.perform serve isOpen ⟨operation, key, timeout⟩ transcript =
        (.error (.fault fault), transcript) := fun fault breaks => by
    simp only [perform, prepare_of_breaks isSmall isTimeout breaks]
  by_cases breaks : ∃ fault, Breaks accessor operation key fault
  · obtain ⟨fault, breaks⟩ := breaks
    refine ⟨iff_of_true ⟨_, congrArg Prod.fst (broken fault breaks)⟩ (.inl ⟨fault, breaks⟩),
      broken, ?_⟩
    rintro text reply _ rfl meets -
    exact absurd meets (breaks.not_meets isSmall)
  · cases isText with
    | broken text => exact absurd ⟨_, .key text⟩ breaks
    | whole text =>
      obtain ⟨attempt, prepared⟩ :=
        exists_attempt_of_unbroken isSmall isTimeout (not_exists.1 breaks)
      obtain ⟨fails, raises⟩ := raises_of_prepared serve isOpen transcript prepared
      have isAttempt := isAttempt_of_prepare prepared
      have meets : Meets serve accessor isOpen attempt.operation attempt.key timeout transcript _ :=
        meets_dispatch isAttempt
      obtain rfl : text = attempt.key := by simpa using isAttempt.key
      obtain rfl : attempt.operation = operation := isAttempt.operation
      refine ⟨?_, broken, ?_⟩
      · rw [fails, or_iff_right breaks]
        constructor
        · rintro ⟨fault, ends⟩
          exact ⟨_, _, fault, rfl, meets, ends⟩
        · rintro ⟨_, reply, fault, ⟨⟩, meetsReply, ends⟩
          exact ⟨fault, meets.unique meetsReply ▸ ends⟩
      · rintro _ reply fault ⟨⟩ meetsReply ends
        obtain rfl := meets.unique meetsReply
        exact raises fault ends

/-- The fault of a conflict of cookies, which is none of a request. -/
def cookieConflict : Fault := ⟨.cookieConflict, "Multiple cookies exist with name=session"⟩

/-- The law at a write that meets a fault of another kind than those of requests. -/
theorem perform_raises_iff_unanswered :
    Ends (.error cookieConflict) cookieConflict ∧
      Raises Script.serve { server := [.error cookieConflict] } (.error cookieConflict)
        cookieConflict
        (standard.perform Script.serve true ⟨.write (.text "v") (.int 5), .text "k", none⟩
          { server := [.error cookieConflict] }) := by
  have isSmall : (Operation.write (.text "v") (.int 5)).IsSmall := ⟨rfl, by decide +kernel⟩
  have isTimeout : Timeout.effective standard.timeout none = .ok standard.timeout := rfl
  obtain ⟨-, -, raises⟩ := perform_raises_iff Script.serve standard true isSmall (.whole "k")
    isTimeout { server := [.error cookieConflict] }
  obtain ⟨url, isUrl⟩ : ∃ url, urlOf (standard.keyAddress "k") none = .ok url :=
    exists_ok_of_isSome (by decide +kernel)
  let request : Request :=
    { method := .put, url, form := some (Form.write (Operation.formFields (.text "v") (.int 5)))
      timeout := standard.timeout }
  have ends : Ends (.error cookieConflict) cookieConflict := .unanswered rfl
  exact ⟨ends, raises "k" _ _ rfl (.served request rfl isUrl rfl rfl isTimeout) ends⟩

/-- An answer with success and a document, whose media type names a codec that gives no text. -/
def hexadecimalResponse : Response :=
  { Response.ofDocument 200 (.object [("node", .object [("value", .text "v")])]) with
    contentType := some "application/json; charset=hex" }

/-- A read fails on this answer, although it is no fault of the transport. -/
theorem perform_hexadecimalResponse :
    (standard.perform Script.serve true ⟨.read, .text "k", none⟩
      { server := [.ok hexadecimalResponse] }).1 = .error (.fault Fault.noText) := by
  rfl

end Accessor

end Keyspace
