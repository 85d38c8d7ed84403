import Keyspace.Proofs.Accessor.Listing
import Keyspace.Proofs.Accessor.Raising
import Keyspace.Proofs.Accessor.Replay
import Keyspace.Proofs.Blanking
import Mathlib.Data.List.Forall2

/-!
# Events without values

No value of the keyspace is told by an event. This is a law about two runs: when they differ only in
the values that they write and in those that answers tell, their events are the same
(`perform_discreet`), and so are their requests but for the contents of forms. If even the replies
are the same, they come to the same. A value that cannot be written in UTF-8 is told no more than
others, but the operation that is to write it fails.
-/

namespace Keyspace

/-- An operation with nothing in the place of a text that it writes. -/
def Operation.blanked : Operation → Operation
  | .write (.text _) lifetime => .write (.text "") lifetime
  | other => other

/-- A call whose operation is blanked. -/
def Call.blanked (call : Call) : Call := { call with operation := call.operation.blanked }

/-- A request with nothing in the place of what its form says. -/
def Request.blanked (request : Request) : Request :=
  { request with form := request.form.map fun _ => "" }

/-- An attempt whose operation and request are blanked. -/
def Attempt.blanked (attempt : Attempt) : Attempt :=
  { attempt with
    operation := attempt.operation.blanked
    request := attempt.request.map Request.blanked }

namespace Operation

@[simp] theorem blanked_blanked (operation : Operation) :
    operation.blanked.blanked = operation.blanked := by
  cases operation with
  | write value lifetime => rcases value with (_ | _ | _ | _ | _ | _ | _) | _ <;> rfl
  | _ => rfl

@[simp] theorem method_blanked (operation : Operation) :
    operation.blanked.method = operation.method := by
  unfold blanked
  split <;> rfl

@[simp] theorem query?_blanked (operation : Operation) :
    operation.blanked.query? = operation.query? := by
  unfold blanked
  split <;> rfl

@[simp] theorem checkLifetime_blanked (operation : Operation) :
    operation.blanked.checkLifetime = operation.checkLifetime := by
  unfold blanked
  split <;> rfl

/-- The forms of an operation and of the blanked one are refused alike, or there are both or
none. -/
theorem form?_blanked (operation : Operation) :
    (∃ failure, operation.blanked.form? = .error failure ∧ operation.form? = .error failure) ∨
      ∃ blankedForm form, operation.blanked.form? = .ok blankedForm ∧ operation.form? = .ok form ∧
        blankedForm.map (fun _ => "") = form.map fun _ => "" := by
  unfold blanked
  split
  · next value lifetime =>
    simp only [form?_write_text]
    cases lifetime.sendable with
    | error failure => exact .inl ⟨failure, rfl, rfl⟩
    | ok lifetime => exact .inr ⟨_, _, rfl, rfl, rfl⟩
  · cases form : operation.form? with
    | error failure => exact .inl ⟨failure, rfl, rfl⟩
    | ok written => exact .inr ⟨written, written, rfl, rfl, rfl⟩

@[simp] theorem entries_blanked (operation : Operation) :
    operation.blanked.entries = operation.entries := by
  unfold blanked
  split <;> rfl

/-- The keys that an operation reads from an answer do not depend on the values in it, nor does what
is wrong with the answer. -/
theorem map_keys_entries_blanked (operation : Operation) (key source : String)
    (members : List (String × Document)) :
    (operation.entries key source (Answer.blanked members)).map Pairs.keys =
      (operation.entries key source members).map Pairs.keys := by
  cases operation with
  | read => exact Answer.map_keys_ofRead_blanked key members
  | write value lifetime => exact Answer.map_keys_ofWrite_blanked key members
  | remove => exact Answer.map_keys_ofRemove_blanked key members
  | readTree recursive => exact Answer.map_keys_ofListing_blanked source members

end Operation

namespace Accessor

variable {State OtherState : Type} {serve : Server State} {other : Server OtherState}
  {accessor : Accessor} {isOpen : Bool} {call otherCall : Call}
  {attempt otherAttempt : Attempt} {transcript : Transcript State}
  {otherTranscript : Transcript OtherState}

/-- Results that show the same are the same fault, or both are there. -/
theorem cases_of_map_eq {ε α β : Type} {first second : Except ε α} {shown : α → β}
    (same : second.map shown = first.map shown) :
    (∃ fault, first = .error fault ∧ second = .error fault) ∨
      ∃ value other, first = .ok value ∧ second = .ok other ∧ shown other = shown value := by
  cases first with
  | error fault =>
    cases second with
    | error otherFault =>
      obtain rfl : otherFault = fault := by simpa [Except.map] using same
      exact .inl ⟨_, rfl, rfl⟩
    | ok other => simp [Except.map] at same
  | ok value =>
    cases second with
    | error otherFault => simp [Except.map] at same
    | ok other => exact .inr ⟨_, _, rfl, rfl, by simpa [Except.map] using same⟩

/-- Preparing a blanked call comes to the same, but for what is blanked. -/
theorem map_blanked_prepare_blanked (accessor : Accessor) (call : Call) :
    (accessor.prepare call.blanked).map Attempt.blanked =
      (accessor.prepare call).map Attempt.blanked := by
  obtain ⟨operation, key, timeout⟩ := call
  simp only [prepare, Call.blanked, bind, Except.bind, Operation.checkLifetime_blanked,
    Operation.query?_blanked]
  cases operation.checkLifetime with
  | error failure => rfl
  | ok _ =>
    cases key.key with
    | error failure => rfl
    | ok key =>
      cases Timeout.effective accessor.timeout timeout with
      | error failure => rfl
      | ok effective =>
        dsimp only
        cases urlOf (accessor.keyAddress key) operation.query? with
        | error fault => simp [pure, Except.pure, Except.map, Attempt.blanked]
        | ok url =>
          rcases operation.form?_blanked with ⟨failure, blankedForm, form⟩ |
            ⟨first, second, blankedForm, form, same⟩
          · simp only [blankedForm, form]
          · simp [blankedForm, form, pure, Except.pure, Except.map, Attempt.blanked,
              Request.blanked, same]

/-- Calls that are the same when blanked are refused alike, or there are attempts at both that are
the same when blanked. -/
theorem prepare_cases_of_blanked (accessor : Accessor) (same : otherCall.blanked = call.blanked) :
    (∃ failure, accessor.prepare call = .error failure ∧
        accessor.prepare otherCall = .error failure) ∨
      ∃ attempt otherAttempt, accessor.prepare call = .ok attempt ∧
        accessor.prepare otherCall = .ok otherAttempt ∧
        otherAttempt.blanked = attempt.blanked := by
  have prepared : (accessor.prepare otherCall).map Attempt.blanked =
      (accessor.prepare call).map Attempt.blanked := by
    rw [← map_blanked_prepare_blanked, same, map_blanked_prepare_blanked]
  exact cases_of_map_eq prepared

theorem conclude_blanked (accessor : Accessor) (attempt : Attempt) (reply : Reply) :
    accessor.conclude attempt.blanked reply = accessor.conclude attempt reply := by
  cases reply <;>
    simp only [conclude, concludeResponse_eq, readAnswer, requestError, Attempt.blanked,
      Operation.method_blanked, Operation.entries_blanked]

/-- What is sent for a blanked request is what is sent for the request, blanked. -/
theorem sent_map_blanked (isOpen : Bool) (request : Except Url.UrlFault Request) :
    sent isOpen (request.map Request.blanked) = (sent isOpen request).map Request.blanked := by
  cases request with
  | error fault => rfl
  | ok ready => cases isOpen <;> rfl

/-- What is dispatched for requests that are the same when blanked is related in a way in which the
replies of the servers are. -/
theorem dispatch_related {related : Reply → Reply → Prop}
    (reflexive : ∀ reply, related reply reply) {request otherRequest : Except Url.UrlFault Request}
    (same : otherRequest.map Request.blanked = request.map Request.blanked)
    (replies : List.Forall₂ related (serve.replies transcript.server (sent isOpen request))
      (other.replies otherTranscript.server (sent isOpen otherRequest))) :
    related (dispatch serve isOpen request transcript).1
      (dispatch other isOpen otherRequest otherTranscript).1 := by
  cases request with
  | error fault =>
    cases otherRequest with
    | ok otherReady => simp [Except.map] at same
    | error otherFault =>
      obtain rfl : otherFault = fault := by simpa [Except.map] using same
      exact reflexive _
  | ok ready =>
    cases otherRequest with
    | error otherFault => simp [Except.map] at same
    | ok otherReady =>
      cases isOpen with
      | false => exact reflexive _
      | true =>
        have related : related (serve transcript.server ready).1
            (other otherTranscript.server otherReady).1 := by
          simpa [sent, Server.replies] using replies
        simpa [dispatch] using related

/-- Two replies differ in values at most: they are one reply, or both are answers with one status
and with documents that are the same when blanked. -/
inductive DifferInValues : Reply → Reply → Prop where
  | same (reply : Reply) : DifferInValues reply reply
  | answers {response other : Response} {document otherDocument : Document}
      (sameStatus : other.status = response.status)
      (isDocument : Json.read response.text = .ok document)
      (isOther : Json.read other.text = .ok otherDocument)
      (sameDocument : otherDocument.blanked = document.blanked) :
      DifferInValues (.ok response) (.ok other)

/-- Replies to one request that differ in values at most are one event. -/
theorem answered_eq {reply otherReply : Reply} (alike : DifferInValues reply otherReply)
    {request otherRequest : Request} (same : otherRequest.blanked = request.blanked) :
    answered otherRequest otherReply = answered request reply := by
  have sameMethod : otherRequest.method = request.method := by
    simpa [Request.blanked] using congrArg Request.method same
  have sameUrl : otherRequest.url = request.url := by
    simpa [Request.blanked] using congrArg Request.url same
  cases alike with
  | same reply => cases reply <;> simp [answered, sameMethod, sameUrl]
  | answers sameStatus => simp [answered, sameMethod, sameUrl, sameStatus]

/-- Requests that are the same when blanked have the same events, when the replies to them differ in
values at most. -/
theorem events_dispatch_eq {request otherRequest : Except Url.UrlFault Request}
    (same : otherRequest.map Request.blanked = request.map Request.blanked)
    (sameEvents : otherTranscript.events = transcript.events)
    (alike : DifferInValues (dispatch serve isOpen request transcript).1
      (dispatch other isOpen otherRequest otherTranscript).1) :
    (dispatch other isOpen otherRequest otherTranscript).2.events =
      (dispatch serve isOpen request transcript).2.events := by
  cases request with
  | error fault =>
    cases otherRequest with
    | ok otherReady => simp [Except.map] at same
    | error otherFault => exact sameEvents
  | ok ready =>
    cases otherRequest with
    | error otherFault => simp [Except.map] at same
    | ok otherReady =>
      cases isOpen with
      | false => exact sameEvents
      | true =>
        simp only [dispatch, if_true, reply_exchange] at alike ⊢
        rw [events_exchange, events_exchange, sameEvents,
          answered_eq alike (by simpa [Except.map] using same)]

/-- The members of documents that are the same when blanked are the same when blanked. -/
theorem map_blanked_members_eq {text otherText : String} {document otherDocument : Document}
    (isDocument : Json.read text = .ok document)
    (isOther : Json.read otherText = .ok otherDocument)
    (same : otherDocument.blanked = document.blanked) :
    (Answer.members otherText).map Answer.blanked = (Answer.members text).map Answer.blanked := by
  simp only [Answer.members, isDocument, isOther]
  cases document <;> cases otherDocument <;> simp_all [Document.blanked, Except.map]

/-- Answers with documents that differ in values at most have as many entries, and the same is wrong
with them. -/
theorem map_size_readAnswer_eq {response otherResponse : Response}
    {document otherDocument : Document} (isDocument : Json.read response.text = .ok document)
    (isOther : Json.read otherResponse.text = .ok otherDocument)
    (same : otherDocument.blanked = document.blanked) :
    (accessor.readAnswer attempt otherResponse.decoded).map Entries.size =
      (accessor.readAnswer attempt response.decoded).map Entries.size := by
  rw [Response.decoded_of_read isDocument, Response.decoded_of_read isOther]
  rcases cases_of_map_eq (map_blanked_members_eq isDocument isOther same) with
    ⟨fault, isFault, isOtherFault⟩ | ⟨members, otherMembers, areMembers, areOther, sameMembers⟩
  · simp only [readAnswer, Except.mapError, isFault, isOtherFault, bind, Except.bind]
  · have sameKeys := attempt.operation.map_keys_entries_blanked attempt.key accessor.source members
    rw [← sameMembers, Operation.map_keys_entries_blanked] at sameKeys
    simp only [readAnswer, Except.mapError, areMembers, areOther, bind, Except.bind]
    rcases cases_of_map_eq sameKeys with
      ⟨fault, isFault, isOtherFault⟩ | ⟨pairs, otherPairs, arePairs, areOther, sameKeys⟩
    · simp only [isFault, isOtherFault]
    · simp only [arePairs, areOther]
      exact congrArg Except.ok (Entries.size_ofList_eq sameKeys)

/-- The event of an answer depends on the text of the answer through the number of entries in it, or
through what is wrong with it. -/
theorem snd_concludeResponse (accessor : Accessor) (attempt : Attempt) (response : Response) :
    (accessor.concludeResponse attempt response).2 =
      if response.status ∈ successStatuses then
        match (accessor.readAnswer attempt response.decoded).map Entries.size with
        | .ok size => .requestCompleted attempt.operation.method attempt.key size
        | .error fault =>
          .answerNotUsable attempt.operation.method attempt.key (fault.error attempt.key)
      else .requestNotOk attempt.operation.method attempt.key response.status := by
  simp only [concludeResponse_eq]
  split
  · cases accessor.readAnswer attempt response.decoded <;> rfl
  · rfl

/-- What is concluded from replies that differ in values at most is one event. -/
theorem map_snd_conclude_eq (accessor : Accessor) (attempt : Attempt) {reply otherReply : Reply}
    (alike : DifferInValues reply otherReply) :
    (accessor.conclude attempt otherReply).map Prod.snd =
      (accessor.conclude attempt reply).map Prod.snd := by
  cases alike with
  | same reply => rfl
  | @answers response other _ _ sameStatus isDocument isOther sameDocument =>
    have sameSize : (accessor.readAnswer attempt other.decoded).map Entries.size =
        (accessor.readAnswer attempt response.decoded).map Entries.size :=
      map_size_readAnswer_eq isDocument isOther sameDocument
    have sameEvent : (accessor.concludeResponse attempt other).2 =
        (accessor.concludeResponse attempt response).2 := by
      rw [snd_concludeResponse, snd_concludeResponse, sameStatus, sameSize]
    rw [conclude_of_answer (endingFault?_of_read isDocument),
      conclude_of_answer (endingFault?_of_read isOther)]
    exact congrArg Except.ok sameEvent

/-- An operation notes the event with which its attempt is concluded. -/
theorem events_perform (prepared : accessor.prepare call = .ok attempt) :
    (accessor.perform serve isOpen call transcript).2.events =
      (dispatch serve isOpen attempt.request transcript).2.events ++
        ((accessor.conclude attempt
          (dispatch serve isOpen attempt.request transcript).1).map Prod.snd).toOption.toList := by
  simp only [perform, prepared]
  split
  · next failure failed => simp [failed, Except.map, Except.toOption]
  · next outcome event concluded => simp [concluded, Except.map, Except.toOption, Transcript.note]

/-- Two runs of an operation look the same from outside: their events are the same, and they have
sent the same but for what forms say. -/
structure LookAlike (transcript : Transcript State) (otherTranscript : Transcript OtherState)
    (after : Transcript State) (otherAfter : Transcript OtherState) : Prop where
  events : otherAfter.events = after.events
  requests : ∃ sent otherSent, after.requests = transcript.requests ++ sent ∧
    otherAfter.requests = otherTranscript.requests ++ otherSent ∧
    otherSent.map Request.blanked = sent.map Request.blanked

/-- Runs of an operation that differ in what it writes, and in values that the replies tell, look
the same from outside. If the replies do not even differ in values, the runs come to the same. -/
theorem lookAlike_perform {call otherCall : Call} (sameCalls : otherCall.blanked = call.blanked)
    (sameEvents : otherTranscript.events = transcript.events)
    (replies : List.Forall₂ DifferInValues
      (serve.replies transcript.server (accessor.requestsOf isOpen call))
      (other.replies otherTranscript.server (accessor.requestsOf isOpen otherCall))) :
    LookAlike transcript otherTranscript (accessor.perform serve isOpen call transcript).2
        (accessor.perform other isOpen otherCall otherTranscript).2 ∧
      (other.replies otherTranscript.server (accessor.requestsOf isOpen otherCall) =
          serve.replies transcript.server (accessor.requestsOf isOpen call) →
        (accessor.perform other isOpen otherCall otherTranscript).1 =
          (accessor.perform serve isOpen call transcript).1) := by
  rcases accessor.prepare_cases_of_blanked sameCalls with
    ⟨failure, failed, otherFailed⟩ | ⟨attempt, otherAttempt, prepared, otherPrepared, same⟩
  · simp only [perform, failed, otherFailed]
    exact ⟨⟨sameEvents, [], [], by simp, by simp, rfl⟩, by simp⟩
  · have sameRequest : otherAttempt.request.map Request.blanked =
        attempt.request.map Request.blanked := congrArg Attempt.request same
    simp only [requestsOf, prepared, otherPrepared] at replies ⊢
    have alike := dispatch_related DifferInValues.same sameRequest replies
    refine ⟨⟨?_, _, _, requests_perform, requests_perform, ?_⟩, fun sameReplies => ?_⟩
    · rw [events_perform prepared, events_perform otherPrepared,
        events_dispatch_eq sameRequest sameEvents alike, ← conclude_blanked accessor otherAttempt,
        same, conclude_blanked, map_snd_conclude_eq accessor attempt alike]
    · simp only [prepared, otherPrepared, ← sent_map_blanked, sameRequest]
    · have sameReply : (dispatch serve isOpen attempt.request transcript).1 =
          (dispatch other isOpen otherAttempt.request otherTranscript).1 :=
        dispatch_related (fun _ => rfl) sameRequest (List.forall₂_eq_eq_eq ▸ sameReplies.symm)
      have sameConclusion : accessor.conclude otherAttempt
            (dispatch other isOpen otherAttempt.request otherTranscript).1 =
          accessor.conclude attempt (dispatch serve isOpen attempt.request transcript).1 := by
        rw [← conclude_blanked accessor otherAttempt, same, conclude_blanked, sameReply]
      simp only [perform, prepared, otherPrepared, sameConclusion]
      split <;> rfl

/-- A write of a value that cannot be written in UTF-8 is not prepared, or there is no URL to send
any value to. -/
theorem prepare_of_brokenValue (accessor : Accessor) (text : BrokenText) (lifetime key : Argument)
    (timeout : Option TimeoutSetting) :
    (∃ failure, accessor.prepare ⟨.write (.broken text) lifetime, key, timeout⟩ = .error failure) ∨
      ∃ name address fault, ∀ value, accessor.prepare ⟨.write value lifetime, key, timeout⟩ =
        .ok { operation := .write value lifetime, key := name, address, request := .error fault } := by
  cases checked : (Operation.write (.broken text) lifetime).checkLifetime with
  | error failure => exact .inl ⟨failure, by simp only [prepare, checked, bind, Except.bind]⟩
  | ok _ =>
    cases isKey : key.key with
    | error failure =>
      exact .inl ⟨failure, by simp only [prepare, checked, isKey, bind, Except.bind]⟩
    | ok name =>
      obtain rfl := Argument.key_eq_ok_iff.1 isKey
      cases isTimeout : Timeout.effective accessor.timeout timeout with
      | error failure =>
        exact .inl ⟨failure, by simp only [prepare, checked, isKey, isTimeout, bind, Except.bind]⟩
      | ok effective =>
        cases isUrl : urlOf (accessor.keyAddress name) none with
        | error fault => exact .inr ⟨_, _, fault, fun _ => prepare_of_notUrl checked isTimeout isUrl⟩
        | ok url =>
          have isSmall : (Operation.write (.broken text) lifetime).IsSmall :=
            ⟨rfl, by simpa [Operation.checkLifetime] using checked⟩
          exact .inl ⟨_, prepare_of_breaks isSmall isTimeout (.form isUrl rfl)⟩

/-- What happens to a value leaves an operation as it is seen from outside. Runs that differ in what
they write, and in values that the replies tell, look the same, and if the replies do not even differ
in values, the runs come to the same. For a value that cannot be written in UTF-8 nothing is sent, and
nothing is told, unless there is no URL to send a value to; then all values are told alike. -/
theorem perform_discreet (serve : Server State) (other : Server OtherState) (accessor : Accessor)
    (isOpen : Bool) (transcript : Transcript State) :
    (∀ (otherTranscript : Transcript OtherState) (call otherCall : Call),
      otherCall.blanked = call.blanked → otherTranscript.events = transcript.events →
      List.Forall₂ DifferInValues
        (serve.replies transcript.server (accessor.requestsOf isOpen call))
        (other.replies otherTranscript.server (accessor.requestsOf isOpen otherCall)) →
      LookAlike transcript otherTranscript (accessor.perform serve isOpen call transcript).2
          (accessor.perform other isOpen otherCall otherTranscript).2 ∧
        (other.replies otherTranscript.server (accessor.requestsOf isOpen otherCall) =
            serve.replies transcript.server (accessor.requestsOf isOpen call) →
          (accessor.perform other isOpen otherCall otherTranscript).1 =
            (accessor.perform serve isOpen call transcript).1)) ∧
    ∀ (text : BrokenText) (lifetime key : Argument) (timeout : Option TimeoutSetting),
      let writing := fun value =>
        accessor.perform serve isOpen ⟨.write value lifetime, key, timeout⟩ transcript
      (writing (.broken text)).2.requests = transcript.requests ∧
        ((writing (.broken text)).2 = transcript ∨
          ∀ value, writing (.text value) = writing (.broken text)) := by
  refine ⟨fun otherTranscript call otherCall => lookAlike_perform, ?_⟩
  intro text lifetime key timeout writing
  rcases accessor.prepare_of_brokenValue text lifetime key timeout with
    ⟨failure, failed⟩ | ⟨name, address, fault, prepared⟩
  · have nothing : (writing (.broken text)).2 = transcript := by simp only [writing, perform, failed]
    exact ⟨by rw [nothing], .inl nothing⟩
  · refine ⟨?_, .inr fun value => ?_⟩
    · simp only [writing, requests_perform, prepared, sent, List.append_nil]
    · simp only [writing, perform, prepared]
      rfl

/-- A write of a value to one key. -/
def writing (value : String) : Call := { operation := .write (.text value) .null, key := .text "k" }

/-- An answer to such a write, which tells the value. -/
def written (value : String) : Document :=
  .object [("node", .object [("key", .text "/k"), ("value", .text value), ("createdIndex", .int 7)])]

/-- A transcript of a server that will give this answer. -/
def tellingWritten (value : String) : Transcript Script :=
  { server := [.ok (.ofDocument 201 (written value))] }

/-- The law at writes of two values, each of which the answer tells again. -/
theorem perform_discreet_written :
    LookAlike (tellingWritten "a") (tellingWritten "b")
      (standard.perform Script.serve true (writing "a") (tellingWritten "a")).2
      (standard.perform Script.serve true (writing "b") (tellingWritten "b")).2 := by
  obtain ⟨url, isUrl⟩ : ∃ url, urlOf (standard.keyAddress "k") none = .ok url :=
    exists_ok_of_isSome (by decide +kernel)
  have isTimeout : Timeout.effective standard.timeout none = .ok standard.timeout := rfl
  have sendsOne : ∀ value, ∃ request, standard.requestsOf true (writing value) = [request] := by
    intro value
    have prepared : standard.prepare (writing value) = .ok _ :=
      prepare_eq_ok rfl isTimeout isUrl rfl
    exact ⟨_, by rw [requestsOf, prepared]; rfl⟩
  obtain ⟨request, areRequests⟩ := sendsOne "a"
  obtain ⟨otherRequest, areOthers⟩ := sendsOne "b"
  have isDocument : ∀ value, Json.isPlain (written value) = true →
      Json.read (Response.ofDocument 201 (written value)).text = .ok (written value) := by
    intro value plain
    rw [Response.text_ofDocument]
    exact Json.read_write plain
  have replies : List.Forall₂ DifferInValues
      (Script.serve.replies (tellingWritten "a").server (standard.requestsOf true (writing "a")))
      (Script.serve.replies (tellingWritten "b").server (standard.requestsOf true (writing "b"))) := by
    rw [areRequests, areOthers]
    exact .cons (.answers rfl (isDocument "a" (by decide +kernel))
      (isDocument "b" (by decide +kernel)) rfl) .nil
  have sameCalls : (writing "b").blanked = (writing "a").blanked := rfl
  have sameEvents : (tellingWritten "b").events = (tellingWritten "a").events := rfl
  obtain ⟨looksAlike, -⟩ :=
    perform_discreet Script.serve Script.serve standard true (tellingWritten "a")
  exact (looksAlike (tellingWritten "b") _ _ sameCalls sameEvents replies).1

/-- A value that cannot be written in UTF-8 does not come to what others come to. -/
theorem exists_value_told_apart :
    ∃ outcome failure,
      (standard.perform Script.serve true (writing "a") { server := [] }).1 = .ok outcome ∧
        (standard.perform Script.serve true ⟨.write (.broken .single) .null, .text "k", none⟩
          { server := [] }).1 = .error failure := by
  obtain ⟨url, isUrl⟩ : ∃ url, urlOf (standard.keyAddress "k") none = .ok url :=
    exists_ok_of_isSome (by decide +kernel)
  have isTimeout : Timeout.effective standard.timeout none = .ok standard.timeout := rfl
  have prepared : standard.prepare (writing "a") = .ok _ := prepare_eq_ok rfl isTimeout isUrl rfl
  have broken : standard.prepare ⟨.write (.broken .single) .null, .text "k", none⟩ =
      .error (.fault BrokenText.single.fault) :=
    prepare_of_breaks ⟨rfl, rfl⟩ isTimeout (.form isUrl rfl)
  obtain ⟨outcome, performed⟩ : ∃ outcome,
      (standard.perform Script.serve true (writing "a") { server := [] }).1 = .ok outcome :=
    exists_outcome_of_goesOn prepared rfl
  exact ⟨outcome, .fault BrokenText.single.fault, performed, by simp only [perform, broken]⟩

end Accessor

end Keyspace
