import Keyspace.Proofs.Accessor.Raising
import Keyspace.Proofs.Answer
import Keyspace.Proofs.Number.Integer
import Keyspace.Proofs.Server
import Mathlib.Data.List.Induction

/-!
# An accessor with a server that keeps the keyspace

Together with a server that keeps the keyspace, an accessor is a map from keys to values. One call
answers from the contents that the server has, and leaves the contents that the call says
(`perform_of_isReady`); a run of calls does the same call by call, so that every answer is told by
the calls before it. Keys that differ only in slashes in front are one key. A call on a text that
cannot be written in UTF-8 may come between, and is as if it had not been made.
-/

namespace Keyspace.Accessor

/-- What a call of the map does with its key. -/
inductive MapAction where
  | get
  /-- Give the key a value, which may be told to expire after a lifetime. -/
  | set (value : String) (lifetime : Option Int)
  | delete
deriving DecidableEq

/-- The operation of an action. -/
def MapAction.operation : MapAction → Operation
  | .get => .read
  | .set value none => .write (.text value) .null
  | .set value (some lifetime) => .write (.text value) (.int lifetime)
  | .delete => .remove

/-- A call of the map. -/
structure MapCall where
  action : MapAction
  key : String
  timeout : Option TimeoutSetting := none
deriving DecidableEq

namespace MapCall

/-- The call of the accessor. -/
def call (mapCall : MapCall) : Call :=
  { operation := mapCall.action.operation, key := .text mapCall.key, timeout := mapCall.timeout }

/-- The contents that a call leaves. -/
def apply (contents : Contents) (mapCall : MapCall) : Contents :=
  match mapCall.action with
  | .get => contents
  | .set value _ => contents.put (plainKey mapCall.key) (some value)
  | .delete => contents.put (plainKey mapCall.key) none

/-- A call is ready for an accessor when its key has no dot segments and makes no address that is
too long, and its timeout and lifetime are accepted. -/
structure IsReady (accessor : Accessor) (mapCall : MapCall) : Prop where
  names : ∀ segment ∈ keySegments mapCall.key, Url.isDotSegment segment = false
  short : (accessor.keyAddress mapCall.key).length ≤ Url.lengthLimit
  timeout : ∃ effective, Timeout.effective accessor.timeout mapCall.timeout = .ok effective
  lifetime : ∀ value lifetime, mapCall.action = .set value (some lifetime) →
    Number.isOversized lifetime = false

/-- What the flat map of a call has at its key, for the contents before it. -/
def Answers (contents : Contents) (mapCall : MapCall) (map : Entries String) : Prop :=
  match mapCall.action with
  | .get => map.find? mapCall.key = contents (plainKey mapCall.key)
  | .set value _ => map.find? mapCall.key = some value
  | .delete => map.find? mapCall.key = none

end MapCall

/-- A turn of a run: a call of the map, or another one, which cannot be written in UTF-8. -/
inductive Turn where
  | sound (mapCall : MapCall)
  | broken (call : Call)

namespace Turn

/-- The call of a turn. -/
def call : Turn → Call
  | .sound mapCall => mapCall.call
  | .broken call => call

/-- The call of the map in a turn that has one. -/
def sound? : Turn → Option MapCall
  | .sound mapCall => some mapCall
  | .broken _ => none

/-- A turn is ready for an accessor when its call of the map is, or when nothing else is wrong with
its call but that it cannot be written in UTF-8. -/
def IsReady (accessor : Accessor) : Turn → Prop
  | .sound mapCall => mapCall.IsReady accessor
  | .broken call => call.operation.IsSmall ∧
      (∃ effective, Timeout.effective accessor.timeout call.timeout = .ok effective) ∧
      ∃ fault, Breaks accessor call.operation call.key fault

end Turn

/-- Turn after turn, the flat maps or failures that come back, and what has been done in the end. -/
def run {State : Type} (serve : Server State) (accessor : Accessor) :
    List Turn → Transcript State → List (Except Failure (Entries String)) × Transcript State
  | [], transcript => ([], transcript)
  | turn :: later, transcript =>
    let (result, next) := accessor.perform serve true turn.call transcript
    let (results, last) := run serve accessor later next
    (result.map Outcome.toMap :: results, last)

variable {State : Type} {serve : Server State} {view : State → Contents} {accessor : Accessor}
  {base : Url} {attempt : Attempt}

/-- An answer without success has nothing at the key. -/
theorem find?_key_of_refused {response : Response} (noSuccess : response.status ∉ successStatuses) :
    (accessor.concludeResponse attempt response).1.toMap.find? attempt.key = none := by
  have concluded : (accessor.concludeResponse attempt response).1 =
      { key := attempt.key, source := accessor.source, status := some response.status } := by
    simp [concludeResponse_eq, noSuccess]
  have apart : Companion.key attempt.key Companion.sourceName ≠ attempt.key :=
    Companion.key_ne_owner _ _
  rw [concluded, Outcome.find?_toMap_of_noError rfl]
  simp [Outcome.sourceKey, apart]

/-- An answer that is understood has at the key what its entries have there. -/
theorem find?_key_of_understood {response : Response} {status : Int}
    {members node : List (String × Document)} {pairs : List (String × String)}
    (tells : response.TellsNode status members node) (success : status ∈ successStatuses)
    (isRead : attempt.operation.entries attempt.key accessor.source members = .ok pairs) :
    (accessor.concludeResponse attempt response).1.toMap.find? attempt.key =
      (Pairs.valuesAt attempt.key pairs).getLast? := by
  have isAnswer : accessor.readAnswer attempt response.decoded = .ok (Entries.ofList pairs) :=
    readAnswer_eq_ok_iff.2 ⟨members, pairs, tells.body, isRead, rfl⟩
  have concluded : (accessor.concludeResponse attempt response).1 =
      { key := attempt.key, source := accessor.source, status := some response.status
        entries := Entries.ofList pairs } := by
    simp [concludeResponse_eq, tells.status, success, isAnswer]
  have apart : Companion.key attempt.key Companion.sourceName ≠ attempt.key :=
    Companion.key_ne_owner _ _
  rw [concluded, Outcome.find?_toMap_of_noError rfl]
  simp [Outcome.sourceKey, apart, Entries.find?_ofList]

/-- The form of a write has the value, and the lifetime, if there is one, as an integer. -/
theorem exists_form_of_set (value : String) {lifetime : Option Int}
    (small : ∀ number, lifetime = some number → Number.isOversized number = false) :
    ∃ form, (MapAction.set value lifetime).operation.form? = .ok (some form) ∧
      (MapAction.set value lifetime).operation.checkLifetime = .ok () ∧
      Pairs.find? "value" (Form.read form) = some value ∧
      ∀ written, Pairs.find? "ttl" (Form.read form) = some written →
        (Number.readInteger? written).isSome := by
  cases lifetime with
  | none =>
    refine ⟨_, rfl, rfl, ?_, ?_⟩
    · rw [Form.read_write]
      rfl
    · rw [Form.read_write]
      intro written isWritten
      simp [Operation.formFields, Form.fields, Form.values, Pairs.find?] at isWritten
  | some number =>
    have isSmall := small number rfl
    have fields : Operation.formFields (.text value) (.int number) =
        [("value", value), ("ttl", Number.integerText number)] := by
      simp [Operation.formFields, Form.fields, Form.values, Form.valueText]
    refine ⟨Form.write [("value", value), ("ttl", Number.integerText number)], ?_, ?_, ?_, ?_⟩
    · rw [MapAction.operation, Operation.form?_write_text]
      simp [Argument.sendable, Except.map, fields]
    · simp [MapAction.operation, Operation.checkLifetime, Argument.isOversized,
        Document.isOversized, isSmall]
    · rw [Form.read_write]
      rfl
    · rw [Form.read_write]
      intro written isWritten
      simp only [Pairs.find?, String.reduceEq, if_false, if_true, Option.some.injEq] at isWritten
      rw [← isWritten, Number.readInteger?_integerText isSmall]
      rfl

/-- A call that is ready is prepared with a request about its key. -/
theorem exists_attempt_of_isReady (isBase : accessor.IsBase base)
    (origin : Url.IsOrigin accessor.serverUrl.toList) {mapCall : MapCall}
    (ready : mapCall.IsReady accessor) {form : Option String}
    (isLifetime : mapCall.action.operation.checkLifetime = .ok ())
    (isForm : mapCall.action.operation.form? = .ok form) :
    ∃ attempt request, accessor.prepare mapCall.call = .ok attempt ∧
      attempt.operation = mapCall.action.operation ∧ attempt.key = mapCall.key ∧
      attempt.request = .ok request ∧ request.method = mapCall.action.operation.method ∧
      request.form = form ∧ request.key? = some (plainKey mapCall.key) := by
  obtain ⟨effective, isTimeout⟩ := ready.timeout
  have noQuery : mapCall.action.operation.query? = none := by
    rcases mapCall.action with _ | ⟨_, _ | _⟩ | _ <;> rfl
  have isUrl := urlOf_keyAddress isBase origin mapCall.key
  rw [if_pos ready.short, ← noQuery] at isUrl
  exact ⟨_, _, prepare_eq_ok isLifetime isTimeout isUrl isForm, rfl, rfl, rfl, rfl, rfl,
    key?_of_path ready.names rfl⟩

private theorem exists_attempt_of_noForm (isBase : accessor.IsBase base)
    (origin : Url.IsOrigin accessor.serverUrl.toList) {mapCall : MapCall}
    (ready : mapCall.IsReady accessor)
    (noForm : mapCall.action = .get ∨ mapCall.action = .delete) :
    ∃ attempt request, accessor.prepare mapCall.call = .ok attempt ∧
      attempt.operation = mapCall.action.operation ∧ attempt.key = mapCall.key ∧
      attempt.request = .ok request ∧ request.method = mapCall.action.operation.method ∧
      request.key? = some (plainKey mapCall.key) := by
  obtain ⟨isLifetime, isForm⟩ : mapCall.action.operation.checkLifetime = .ok () ∧
      mapCall.action.operation.form? = .ok none := by
    rcases noForm with isGet | isDelete
    · rw [isGet]
      exact ⟨rfl, rfl⟩
    · rw [isDelete]
      exact ⟨rfl, rfl⟩
  obtain ⟨attempt, request, prepared, isOperation, isKey, isRequest, isMethod, -, about⟩ :=
    exists_attempt_of_isReady isBase origin ready isLifetime isForm
  exact ⟨attempt, request, prepared, isOperation, isKey, isRequest, isMethod, about⟩

private theorem node_of_tellsNode {response : Response} {status : Int}
    {members node : List (String × Document)} (tells : response.TellsNode status members node) :
    Answer.node members = .ok (NodeData.ofMembers node) := by
  simp [Answer.node, tells.node]

private theorem goesOn_of_notFound {response : Response} (notFound : response.status = 404) :
    endingFault? (.ok response) = none := by
  refine if_neg fun ends => ?_
  rw [notFound] at ends
  exact absurd ends.1 (by decide)

private theorem find?_key_of_read {response : Response} {members node : List (String × Document)}
    (isOperation : attempt.operation = .read) (tells : response.TellsNode 200 members node) :
    (accessor.concludeResponse attempt response).1.toMap.find? attempt.key =
      (NodeData.ofMembers node).value := by
  have isNode := node_of_tellsNode tells
  have isRead : attempt.operation.entries attempt.key accessor.source members =
      .ok (Answer.readEntries attempt.key (NodeData.ofMembers node)) := by
    simp [isOperation, Operation.entries, Answer.ofRead, isNode, Except.map]
  rw [find?_key_of_understood tells (by decide) isRead, Answer.valuesAt_readEntries
    (NodeData.isFromNode_ofMembers node) (Answer.spares_key attempt.key).field, if_pos rfl]
  cases (NodeData.ofMembers node).value <;> rfl

private theorem exists_previous {members : List (String × Document)}
    (told : Pairs.find? "prevNode" members = none ∨
      ∃ before, Pairs.find? "prevNode" members = some (.object before)) :
    ∃ before, Answer.previous members = .ok before := by
  rcases told with isNew | ⟨before, isOld⟩
  · exact ⟨none, by simp [Answer.previous, isNew]⟩
  · exact ⟨some (NodeData.ofMembers before), by simp [Answer.previous, isOld]⟩

private theorem find?_key_of_write {response : Response} {members node : List (String × Document)}
    {status : Int} {value lifetime : Argument}
    (isOperation : attempt.operation = .write value lifetime)
    (tells : response.TellsNode status members node) (success : status ∈ successStatuses)
    (told : Pairs.find? "prevNode" members = none ∨
      ∃ before, Pairs.find? "prevNode" members = some (.object before)) :
    (accessor.concludeResponse attempt response).1.toMap.find? attempt.key =
      (NodeData.ofMembers node).value := by
  obtain ⟨before, isPrevious⟩ := exists_previous told
  have isNode := node_of_tellsNode tells
  obtain ⟨pairs, isWritten⟩ : ∃ pairs, Answer.ofWrite attempt.key members = .ok pairs := by
    simp [Answer.ofWrite, isNode, isPrevious, bind, Except.bind, pure, Except.pure]
  obtain ⟨data, isData, values⟩ := Answer.valuesAt_ofWrite (Answer.spares_key attempt.key) isWritten
  rw [isNode, Except.ok.injEq] at isData
  rw [find?_key_of_understood tells success (by rw [isOperation]; exact isWritten), values,
    if_pos rfl, ← isData]
  cases (NodeData.ofMembers node).value <;> rfl

private theorem find?_key_of_remove {response : Response} {members node : List (String × Document)}
    (isOperation : attempt.operation = .remove) (tells : response.TellsNode 200 members node)
    (told : Pairs.find? "prevNode" members = none ∨
      ∃ before, Pairs.find? "prevNode" members = some (.object before)) :
    (accessor.concludeResponse attempt response).1.toMap.find? attempt.key = none := by
  obtain ⟨before, isPrevious⟩ := exists_previous told
  have isNode := node_of_tellsNode tells
  obtain ⟨pairs, isRemoved⟩ : ∃ pairs, Answer.ofRemove attempt.key members = .ok pairs := by
    simp [Answer.ofRemove, isNode, isPrevious, bind, Except.bind, pure, Except.pure]
  rw [find?_key_of_understood tells (by decide) (by rw [isOperation]; exact isRemoved),
    Answer.valuesAt_ofRemove (Answer.spares_key attempt.key) isRemoved]
  rfl

private theorem value_ofMembers {node : List (String × Document)} (value : Option String)
    (isValue : Pairs.find? "value" node = value.map Document.text) :
    (NodeData.ofMembers node).value = value := by
  cases value <;> simp [NodeData.ofMembers, isValue]

private theorem perform_get (serves : ServesKeyspace serve view) (isBase : accessor.IsBase base)
    (origin : Url.IsOrigin accessor.serverUrl.toList) {mapCall : MapCall}
    (ready : mapCall.IsReady accessor) (isGet : mapCall.action = .get)
    (transcript : Transcript State) :
    ∃ outcome, (accessor.perform serve true mapCall.call transcript).1 = .ok outcome ∧
      outcome.toMap.find? mapCall.key = view transcript.server (plainKey mapCall.key) ∧
      view (accessor.perform serve true mapCall.call transcript).2.server =
        view transcript.server := by
  obtain ⟨attempt, request, prepared, isOperation, isKey, isRequest, isMethod, about⟩ :=
    exists_attempt_of_noForm isBase origin ready (.inl isGet)
  rw [isGet] at isOperation isMethod
  obtain ⟨response, after, answered, kept, told⟩ :=
    serves.get transcript.server request (plainKey mapCall.key) isMethod about
  have goesOn : endingFault? (.ok response) = none := by
    split at told
    · obtain ⟨_, _, tells, -⟩ := told
      exact endingFault?_of_read tells.body
    · rcases told with notFound | ⟨_, _, tells, -⟩
      · exact goesOn_of_notFound notFound
      · exact endingFault?_of_read tells.body
  obtain ⟨performed, isAfter⟩ := perform_of_answer prepared isRequest answered goesOn
  refine ⟨_, performed, ?_, by rw [isAfter, kept]⟩
  rw [← isKey]
  cases isValue : view transcript.server (plainKey mapCall.key) with
  | some value =>
    rw [isValue] at told
    obtain ⟨members, node, tells, isNodeValue⟩ := told
    rw [find?_key_of_read isOperation tells, isKey, isValue,
      value_ofMembers (some value) isNodeValue]
  | none =>
    rw [isValue] at told
    rcases told with notFound | ⟨members, node, tells, isNodeValue⟩
    · have noSuccess : response.status ∉ successStatuses := by
        rw [notFound]
        decide
      rw [find?_key_of_refused noSuccess, isKey, isValue]
    · rw [find?_key_of_read isOperation tells, isKey, isValue,
        value_ofMembers none isNodeValue]

private theorem perform_set (serves : ServesKeyspace serve view) (isBase : accessor.IsBase base)
    (origin : Url.IsOrigin accessor.serverUrl.toList) {mapCall : MapCall}
    (ready : mapCall.IsReady accessor) {value : String} {lifetime : Option Int}
    (isSet : mapCall.action = .set value lifetime) (transcript : Transcript State) :
    ∃ outcome, (accessor.perform serve true mapCall.call transcript).1 = .ok outcome ∧
      outcome.toMap.find? mapCall.key = some value ∧
      view (accessor.perform serve true mapCall.call transcript).2.server =
        (view transcript.server).put (plainKey mapCall.key) (some value) := by
  have small : ∀ number, lifetime = some number → Number.isOversized number = false := by
    rintro number rfl
    exact ready.lifetime value number isSet
  obtain ⟨form, isForm, isLifetime, hasValue, hasLifetime⟩ := exists_form_of_set value small
  rw [← isSet] at isForm isLifetime
  obtain ⟨attempt, request, prepared, isOperation, isKey, isRequest, isMethod, carried, about⟩ :=
    exists_attempt_of_isReady isBase origin ready isLifetime isForm
  have body : request.body = form := by rw [Request.body, carried, Option.getD_some]
  obtain ⟨shown, isWrite⟩ : ∃ lifetime, attempt.operation = .write (.text value) lifetime := by
    rw [isOperation, isSet]
    cases lifetime <;> exact ⟨_, rfl⟩
  rw [isSet] at isMethod
  have isPut : request.method = .put := by
    rw [isMethod]
    cases lifetime <;> rfl
  obtain ⟨response, after, answered, kept, members, node, isNodeValue, told⟩ :=
    serves.put transcript.server request (plainKey mapCall.key) value isPut about
      (by rwa [body]) (by rwa [body])
  have goesOn : endingFault? (.ok response) = none := by
    split at told
    · exact endingFault?_of_read told.1.body
    · exact endingFault?_of_read told.1.body
  obtain ⟨performed, isAfter⟩ := perform_of_answer prepared isRequest answered goesOn
  refine ⟨_, performed, ?_, by rw [isAfter, kept]⟩
  have isValue := value_ofMembers (some value) isNodeValue
  rw [← isKey]
  cases before : view transcript.server (plainKey mapCall.key) with
  | some old =>
    rw [before] at told
    obtain ⟨tells, isPrevious⟩ := told
    rw [find?_key_of_write isWrite tells (by decide) (.inr isPrevious), isValue]
  | none =>
    rw [before] at told
    obtain ⟨tells, isPrevious⟩ := told
    rw [find?_key_of_write isWrite tells (by decide) (.inl isPrevious), isValue]

private theorem perform_delete (serves : ServesKeyspace serve view) (isBase : accessor.IsBase base)
    (origin : Url.IsOrigin accessor.serverUrl.toList) {mapCall : MapCall}
    (ready : mapCall.IsReady accessor) (isDelete : mapCall.action = .delete)
    (transcript : Transcript State) :
    ∃ outcome, (accessor.perform serve true mapCall.call transcript).1 = .ok outcome ∧
      outcome.toMap.find? mapCall.key = none ∧
      view (accessor.perform serve true mapCall.call transcript).2.server =
        (view transcript.server).put (plainKey mapCall.key) none := by
  obtain ⟨attempt, request, prepared, isOperation, isKey, isRequest, isMethod, about⟩ :=
    exists_attempt_of_noForm isBase origin ready (.inr isDelete)
  rw [isDelete] at isOperation isMethod
  obtain ⟨response, after, answered, kept, told⟩ :=
    serves.delete transcript.server request (plainKey mapCall.key) isMethod about
  have goesOn : endingFault? (.ok response) = none := by
    split at told
    · obtain ⟨_, _, tells, -⟩ := told
      exact endingFault?_of_read tells.body
    · exact goesOn_of_notFound told
  obtain ⟨performed, isAfter⟩ := perform_of_answer prepared isRequest answered goesOn
  refine ⟨_, performed, ?_, by rw [isAfter, kept]⟩
  rw [← isKey]
  cases before : view transcript.server (plainKey mapCall.key) with
  | some old =>
    rw [before] at told
    obtain ⟨members, node, tells, isPrevious⟩ := told
    exact find?_key_of_remove isOperation tells (.inr isPrevious)
  | none =>
    rw [before] at told
    have noSuccess : response.status ∉ successStatuses := by
      rw [told]
      decide
    exact find?_key_of_refused noSuccess

/-- One call answers from the contents, and leaves the contents that it says. -/
theorem perform_of_isReady (serves : ServesKeyspace serve view) (isBase : accessor.IsBase base)
    (origin : Url.IsOrigin accessor.serverUrl.toList) {mapCall : MapCall}
    (ready : mapCall.IsReady accessor) (transcript : Transcript State) :
    ∃ outcome, (accessor.perform serve true mapCall.call transcript).1 = .ok outcome ∧
      mapCall.Answers (view transcript.server) outcome.toMap ∧
      view (accessor.perform serve true mapCall.call transcript).2.server =
        mapCall.apply (view transcript.server) := by
  cases action : mapCall.action with
  | get =>
    have performed := perform_get serves isBase origin ready action transcript
    simpa [MapCall.Answers, MapCall.apply, action] using performed
  | set value lifetime =>
    have performed := perform_set serves isBase origin ready action transcript
    simpa [MapCall.Answers, MapCall.apply, action] using performed
  | delete =>
    have performed := perform_delete serves isBase origin ready action transcript
    simpa [MapCall.Answers, MapCall.apply, action] using performed

/-- A call that cannot be written in UTF-8 comes back with a failure and changes nothing. -/
theorem exists_failure_of_broken (serve : Server State) {call : Call}
    (ready : (Turn.broken call).IsReady accessor) (transcript : Transcript State) :
    ∃ failure, accessor.perform serve true call transcript = (.error failure, transcript) := by
  obtain ⟨isSmall, ⟨effective, isTimeout⟩, fault, breaks⟩ := ready
  exact ⟨.fault fault, by simp only [perform, prepare_of_breaks isSmall isTimeout breaks]⟩

theorem length_run (turns : List Turn) (transcript : Transcript State) :
    (run serve accessor turns transcript).1.length = turns.length := by
  induction turns generalizing transcript with
  | nil => rfl
  | cons first others inductionHypothesis => simp [run, inductionHypothesis]

/-- What has been done in the end of a run is what its calls of the map alone have done. -/
theorem run_of_sound {turns : List Turn} (ready : ∀ turn ∈ turns, turn.IsReady accessor)
    (transcript : Transcript State) :
    (run serve accessor turns transcript).2 =
      (run serve accessor ((turns.filterMap Turn.sound?).map .sound) transcript).2 := by
  induction turns generalizing transcript with
  | nil => rfl
  | cons first others inductionHypothesis =>
    obtain ⟨readyFirst, readyOthers⟩ := List.forall_mem_cons.1 ready
    cases first with
    | sound mapCall => exact inductionHypothesis readyOthers _
    | broken call =>
      obtain ⟨failure, failed⟩ := exists_failure_of_broken serve readyFirst transcript
      simp only [run, Turn.call, failed]
      exact inductionHypothesis readyOthers transcript

/-- The call at each place of a run answers from the contents that the calls before it have left. -/
theorem run_answers (serves : ServesKeyspace serve view) (isBase : accessor.IsBase base)
    (origin : Url.IsOrigin accessor.serverUrl.toList) {turns : List Turn}
    (ready : ∀ turn ∈ turns, turn.IsReady accessor) (transcript : Transcript State)
    {before later : List Turn} {mapCall : MapCall}
    (place : turns = before ++ .sound mapCall :: later) :
    ∃ map, (run serve accessor turns transcript).1[before.length]? = some (.ok map) ∧
      mapCall.Answers
        ((before.filterMap Turn.sound?).foldl MapCall.apply (view transcript.server)) map := by
  induction turns generalizing transcript before with
  | nil => simp at place
  | cons first others inductionHypothesis =>
    obtain ⟨readyFirst, readyOthers⟩ := List.forall_mem_cons.1 ready
    cases before with
    | nil =>
      obtain ⟨rfl, rfl⟩ := List.cons.inj place
      obtain ⟨outcome, performed, answers, -⟩ :=
        perform_of_isReady serves isBase origin readyFirst transcript
      exact ⟨outcome.toMap, by simp [run, Turn.call, performed, Except.map], answers⟩
    | cons _ between =>
      obtain ⟨rfl, rest⟩ := List.cons.inj place
      obtain ⟨map, isResult, answers⟩ := inductionHypothesis readyOthers
        (accessor.perform serve true first.call transcript).2 rest
      refine ⟨map, by simpa [run] using isResult, ?_⟩
      cases first with
      | sound firstCall =>
        obtain ⟨-, -, -, leaves⟩ :=
          perform_of_isReady serves isBase origin readyFirst transcript
        rwa [Turn.call, leaves] at answers
      | broken call =>
        obtain ⟨failure, failed⟩ := exists_failure_of_broken serve readyFirst transcript
        rwa [Turn.call, failed] at answers

/-- Among calls, the last one that gave a key a value or took it away gave it this value. -/
def LastSet (before : List MapCall) (key value : String) : Prop :=
  ∃ earlier setCall later, before = earlier ++ setCall :: later ∧
    plainKey setCall.key = plainKey key ∧ (∃ lifetime, setCall.action = .set value lifetime) ∧
    ∀ mapCall ∈ later, mapCall.action = .get ∨ plainKey mapCall.key ≠ plainKey key

/-- The last of some calls gave a key a value, or the one before it did and the last left it. -/
theorem lastSet_concat_iff {before : List MapCall} {last : MapCall} {key value : String} :
    LastSet (before ++ [last]) key value ↔
      (plainKey last.key = plainKey key ∧ ∃ lifetime, last.action = .set value lifetime) ∨
        ((last.action = .get ∨ plainKey last.key ≠ plainKey key) ∧ LastSet before key value) := by
  constructor
  · rintro ⟨earlier, setCall, later, place, sameKey, isSet, left⟩
    rcases List.eq_nil_or_concat later with rfl | ⟨between, final, rfl⟩
    · obtain ⟨-, same⟩ := List.append_inj' place rfl
      obtain rfl : last = setCall := by simpa using same
      exact .inl ⟨sameKey, isSet⟩
    · rw [List.concat_eq_append, ← List.cons_append, ← List.append_assoc] at place
      obtain ⟨rfl, same⟩ := List.append_inj' place rfl
      obtain rfl : last = final := by simpa using same
      exact .inr ⟨left last (by simp), earlier, setCall, between, rfl, sameKey, isSet,
        fun mapCall isBetween => left mapCall (by simp [isBetween])⟩
  · rintro (⟨sameKey, isSet⟩ | ⟨leftLast, earlier, setCall, later, rfl, sameKey, isSet, left⟩)
    · exact ⟨before, last, [], rfl, sameKey, isSet, by simp⟩
    · refine ⟨earlier, setCall, later ++ [last], by simp, sameKey, isSet, ?_⟩
      intro mapCall isLater
      rcases List.mem_append.1 isLater with isBetween | isLast
      · exact left mapCall isBetween
      · rwa [List.mem_singleton.1 isLast]

private theorem apply_eq_some_iff {contents : Contents} {mapCall : MapCall} {key value : String} :
    mapCall.apply contents (plainKey key) = some value ↔
      (plainKey mapCall.key = plainKey key ∧ ∃ lifetime, mapCall.action = .set value lifetime) ∨
        ((mapCall.action = .get ∨ plainKey mapCall.key ≠ plainKey key) ∧
          contents (plainKey key) = some value) := by
  by_cases sameKey : plainKey mapCall.key = plainKey key
  · cases action : mapCall.action <;> simp [MapCall.apply, action, Contents.put, sameKey]
  · cases action : mapCall.action <;>
      simp [MapCall.apply, action, Contents.put, sameKey, Ne.symm sameKey]

/-- The contents that calls leave have at a key what the last call that changed it set. -/
theorem contents_eq_some_iff {before : List MapCall} {key value : String} :
    before.foldl MapCall.apply Contents.empty (plainKey key) = some value ↔
      LastSet before key value := by
  induction before using List.reverseRecOn with
  | nil => simp [Contents.empty, LastSet]
  | append_singleton before last inductionHypothesis =>
    rw [List.foldl_append, List.foldl_cons, List.foldl_nil, lastSet_concat_iff,
      ← inductionHypothesis]
    exact apply_eq_some_iff

/-- What the flat map of a call has at its key, told by the calls before it. -/
def MapCall.AnswersAfter (before : List MapCall) (mapCall : MapCall) (map : Entries String) :
    Prop :=
  match mapCall.action with
  | .get => ∀ value, map.find? mapCall.key = some value ↔ LastSet before mapCall.key value
  | .set value _ => map.find? mapCall.key = some value
  | .delete => map.find? mapCall.key = none

/-- With a server that keeps the keyspace and starts without contents, every call of the map answers,
and getting a key gives the value that the last call to change the key has set, if there is one.
Calls that cannot be written in UTF-8 may come between, and leave nothing behind. -/
theorem run_answers_after (serves : ServesKeyspace serve view) {serverUrl : Document}
    {setting : Option TimeoutSetting} (created : create serverUrl setting = .ok accessor)
    (origin : Url.IsOrigin accessor.serverUrl.toList) (turns : List Turn)
    (ready : ∀ turn ∈ turns, turn.IsReady accessor) (transcript : Transcript State)
    (empty : view transcript.server = Contents.empty) :
    (run serve accessor turns transcript).1.length = turns.length ∧
      (run serve accessor turns transcript).2 =
        (run serve accessor ((turns.filterMap Turn.sound?).map .sound) transcript).2 ∧
      ∀ before mapCall later, turns = before ++ .sound mapCall :: later →
        ∃ map, (run serve accessor turns transcript).1[before.length]? = some (.ok map) ∧
          mapCall.AnswersAfter (before.filterMap Turn.sound?) map := by
  obtain ⟨base, isBase⟩ := exists_isBase_of_create created
  refine ⟨length_run turns transcript, run_of_sound ready transcript,
    fun before mapCall later place => ?_⟩
  obtain ⟨map, isResult, answers⟩ := run_answers serves isBase origin ready transcript place
  refine ⟨map, isResult, ?_⟩
  rw [empty] at answers
  unfold MapCall.Answers at answers
  unfold MapCall.AnswersAfter
  cases action : mapCall.action with
  | get =>
    rw [action] at answers
    intro value
    rw [answers]
    exact contents_eq_some_iff
  | set value lifetime => rwa [action] at answers
  | delete => rwa [action] at answers

end Keyspace.Accessor
