import Keyspace.Answer
import Keyspace.Argument
import Keyspace.Transcript
import Keyspace.Url.Parser

/-!
# Accessors

An accessor reads and writes one keyspace over HTTP. Every operation has three stages: it is
prepared from its arguments, at most one request is sent, and the reply is concluded into an
outcome with one event. A fault of the transport and an answer that is not usable are part of the
outcome; only a refused argument or a fault of another kind ends an operation without one.
-/

namespace Keyspace

/-- A base URL and a default timeout. -/
structure Accessor where
  serverUrl : String
  timeout : Timeout
deriving DecidableEq, Repr

/-- The operations on a key. -/
inductive Operation where
  | read
  /-- Write a value, and let it expire after a lifetime unless that is nothing. -/
  | write (value lifetime : Argument)
  | remove
  /-- List the directory at the key. -/
  | readTree (recursive : Bool)
deriving DecidableEq

namespace Operation

/-- The method of an operation. -/
def method : Operation → Method
  | .read => .get
  | .write .. => .put
  | .remove => .delete
  | .readTree _ => .get

/-- The query of an operation that has one. -/
def query? : Operation → Option (List Char)
  | .readTree true => some "recursive=true".toList
  | .readTree false => some "recursive=false".toList
  | _ => none

/-- Refuse a lifetime that cannot be written out. -/
def checkLifetime : Operation → Except Failure Unit
  | .write _ lifetime => if lifetime.isOversized then .error (.fault .oversizedInteger) else .ok ()
  | _ => .ok ()

/-- The fields of the form of a write. -/
def formFields (value lifetime : Document) : List (String × String) :=
  Form.fields "value" value ++
    (if lifetime = .null then [] else [("ttl", lifetime.shown)])

/-- The form of an operation that has one. -/
def form? : Operation → Except Failure (Option String)
  | .write value lifetime =>
    if value.isOversized then .error (.fault .oversizedInteger)
    else do
      let value ← value.sendable
      let lifetime ← lifetime.sendable
      return some (Form.write (formFields value lifetime))
  | _ => .ok none

/-- Fill in the entries of a successful answer. -/
def fill (operation : Operation) (key source : String) (members : List (String × Document)) :
    Progress AnswerFault (String × String) :=
  match operation with
  | .read => Answer.fillRead key members
  | .write .. => Answer.fillWrite key members
  | .remove => Answer.fillRemove key members
  | .readTree _ => Answer.fillListing source members

end Operation

/-- An operation with its arguments. -/
structure Call where
  operation : Operation
  key : Argument
  timeout : Option TimeoutSetting := none
deriving DecidableEq

/-- An operation that is ready: the address it goes to, and the request unless the address is not
a URL. -/
structure Attempt where
  operation : Operation
  key : String
  address : String
  request : Except Url.UrlFault Request

namespace Accessor

/-- The base URL where none is given. -/
def standardUrl : String := "http://127.0.0.1:4001"

/-- A base URL that is refused. -/
def invalidUrl (shown : String) (cause : Option Fault := none) : Failure :=
  .invalidConfiguration ("Invalid etcd server url: " ++ shown) cause

/-- A URL fault as a fault. -/
def urlFault (fault : Url.UrlFault) : Fault := ⟨.invalidUrl, fault.message⟩

/-- A URL that keys can be appended to has the scheme of HTTP, with or without encryption, and a
host. -/
def isUsable (url : Url) : Bool :=
  (url.scheme = ['h', 't', 't', 'p'] || url.scheme = ['h', 't', 't', 'p', 's']) &&
    !url.host.isEmpty

/-- A base URL without a slash at its end. -/
def withoutLastSlash (text : List Char) : List Char :=
  if text.getLast? = some '/' then text.dropLast else text

/-- Check a base URL. -/
def checkUrl : Document → Except Failure String
  | .text text =>
    if text = "" then .error (invalidUrl (Text.quoted text))
    else
      let base := String.ofList (withoutLastSlash text.toList)
      match Url.read base.toList with
      | .error fault => .error (invalidUrl (Text.quoted base) (some (urlFault fault)))
      | .ok url => if isUsable url then .ok base else .error (invalidUrl (Text.quoted base))
  | other =>
    if other.isOversized then .error (.fault .oversizedInteger)
    else .error (invalidUrl other.quotedForm)

/-- Make an accessor for a base URL with a default timeout. -/
def create (serverUrl : Document) (timeout : Option TimeoutSetting) : Except Failure Accessor := do
  let serverUrl ← checkUrl serverUrl
  let timeout ← Timeout.effective .standard timeout
  return { serverUrl, timeout }

/-- The text by which flat maps show where values come from. -/
def source (accessor : Accessor) : String := "[etcd]" ++ accessor.serverUrl

/-- The path of a key: its segments, without slashes in front, each escaped. -/
def keyPath (key : String) : List Char :=
  Text.unfields '/' ((Text.fields '/' (key.toList.dropWhile (· = '/'))).map
    (Text.Percent.encode Text.Percent.isUnreserved))

/-- The address of a key. -/
def keyAddress (accessor : Accessor) (key : String) : String :=
  accessor.serverUrl ++ "/v2/keys/" ++ String.ofList (keyPath key)

/-- The address of the version. -/
def versionAddress (accessor : Accessor) : String := accessor.serverUrl ++ "/version"

/-- The URL of an address; an operation with a query puts it in the place of any other one. -/
def urlOf (address : String) (query : Option (List Char)) : Except Url.UrlFault Url := do
  let url ← Url.read address.toList
  match query with
  | none => return url
  | some query => url.withQuery query

/-- Prepare an operation. -/
def prepare (accessor : Accessor) (call : Call) : Except Failure Attempt := do
  call.operation.checkLifetime
  let key ← call.key.key
  let timeout ← Timeout.effective accessor.timeout call.timeout
  let operation := call.operation
  let address := accessor.keyAddress key
  match urlOf address operation.query? with
  | .error fault => return { operation, key, address, request := .error fault }
  | .ok url =>
    let form ← operation.form?
    return { operation, key, address
             request := .ok { method := operation.method, url, form, timeout } }

/-- The fault of a request on a client that has been closed. -/
def clientClosed : Fault := ⟨.runtime, "Cannot send a request, as the client has been closed."⟩

/-- What becomes of a request on a client: it is sent if the client is open. -/
def dispatch {State : Type} (serve : Server State) (isOpen : Bool)
    (request : Except Url.UrlFault Request) (transcript : Transcript State) :
    Reply × Transcript State :=
  match request with
  | .error fault => (.error (urlFault fault), transcript)
  | .ok request =>
    if isOpen then transcript.exchange serve request else (.error clientClosed, transcript)

/-- The error of a request without an answer. -/
def requestError (attempt : Attempt) (cause : Fault) : AccessError where
  kind := .network
  message := attempt.operation.method.name ++ " " ++ attempt.address ++ " failed"
  key := some attempt.key
  cause := some cause

/-- Fill in the entries in the body of a successful answer. -/
def fillAnswer (accessor : Accessor) (attempt : Attempt)
    (body : Except Content.DecodingFault String) : Progress AnswerFault (String × String) :=
  .after (body.mapError .undecodable) fun text =>
    .after (Answer.members text) fun members =>
      attempt.operation.fill attempt.key accessor.source members

/-- Conclude an answer. What has been filled in is taken back when there has been a fault. -/
def concludeResponse (accessor : Accessor) (attempt : Attempt) (response : Response) :
    Outcome String × Event :=
  let method := attempt.operation.method
  let outcome : Outcome String :=
    { key := attempt.key, source := accessor.source, status := some response.status }
  if Outcome.isSuccess (some response.status) then
    let progress := accessor.fillAnswer attempt response.decoded
    let filled := { outcome with entries := Entries.ofList progress.items }
    match progress.fault with
    | none => (filled, .requestCompleted method attempt.key filled.entries.size)
    | some fault =>
      let error := fault.error attempt.key
      ({ filled.cleared with error := some error }, .answerNotUsable method attempt.key error)
  else (outcome, .requestNotOk method attempt.key response.status)

/-- Conclude a reply: faults of the transport are captured, others end the operation. An answer
with success whose codec gives no text ends it as well. -/
def conclude (accessor : Accessor) (attempt : Attempt) :
    Reply → Except Failure (Outcome String × Event)
  | .ok response =>
    if Outcome.isSuccess (some response.status) && response.decoded?.isNone then
      .error (.fault Fault.noText)
    else .ok (accessor.concludeResponse attempt response)
  | .error fault =>
    if fault.kind.isRequestFault then
      .ok ({ key := attempt.key, source := accessor.source
             error := some (requestError attempt fault) },
        .requestFailed attempt.operation.method attempt.key attempt.address fault)
    else .error (.ofFault fault)

/-- Perform an operation. -/
def perform {State : Type} (serve : Server State) (accessor : Accessor) (isOpen : Bool)
    (call : Call) (transcript : Transcript State) :
    Except Failure (Outcome String) × Transcript State :=
  match accessor.prepare call with
  | .error failure => (.error failure, transcript)
  | .ok attempt =>
    let (reply, sent) := dispatch serve isOpen attempt.request transcript
    match accessor.conclude attempt reply with
    | .error failure => (.error failure, sent)
    | .ok (outcome, event) => (.ok outcome, sent.note event)

/-- The answer in the place of a version that could not be read. -/
def versionUnknown : String := "<ERROR>"

/-- Conclude a reply about the version. -/
def concludeVersion (accessor : Accessor) : Reply → Except Failure (String × Option Event)
  | .ok response =>
    if response.status = 200 then
      match response.decoded? with
      | some (.ok text) => .ok (text, none)
      | some (.error fault) => .error (.fault fault.toFault)
      | none => .error (.fault Fault.noText)
    else .ok (versionUnknown, some (.versionNotOk accessor.versionAddress response.status))
  | .error fault =>
    if fault.kind.isRequestFault then
      .ok (versionUnknown, some (.versionFailed accessor.versionAddress fault))
    else .error (.ofFault fault)

/-- Ask for the version of the server. -/
def version {State : Type} (serve : Server State) (accessor : Accessor) (isOpen : Bool)
    (timeout : Option TimeoutSetting) (transcript : Transcript State) :
    Except Failure String × Transcript State :=
  match Timeout.effective accessor.timeout timeout with
  | .error failure => (.error failure, transcript)
  | .ok timeout =>
    let request := (urlOf accessor.versionAddress none).map fun url =>
      { method := .get, url, form := none, timeout : Request }
    let (reply, sent) := dispatch serve isOpen request transcript
    match accessor.concludeVersion reply with
    | .error failure => (.error failure, sent)
    | .ok (text, none) => (.ok text, sent)
    | .ok (text, some event) => (.ok text, sent.note event)

end Accessor

end Keyspace
