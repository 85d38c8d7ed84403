import Keyspace.Proofs.Accessor.BasePath
import Keyspace.Proofs.Accessor.Raising
import Keyspace.Proofs.Accessor.Replay
import Keyspace.Proofs.Number.Integer
import Keyspace.Proofs.Server

/-!
# Requests read back

A request tells all of the call that it was made for: the method and the query tell the operation,
the path behind that of the base tells the key, and the form tells the value and the lifetime.
`requests_readBack` says so for base URLs with whatever path, as long as neither it nor the key has
dot segments; two calls with one request are the same but for slashes in front of the key.
-/

namespace Keyspace

namespace Text.Percent

/-- A text of slashes, unreserved characters and escapes of octets. -/
inductive IsEscaped : List Char → Prop where
  | nil : IsEscaped []
  | plain {character : Char} {rest : List Char}
      (isPlain : character = '/' ∨ isUnreserved character = true) (escaped : IsEscaped rest) :
      IsEscaped (character :: rest)
  | escape (octet : UInt8) {rest : List Char} (escaped : IsEscaped rest) :
      IsEscaped (escapeOctet octet ++ rest)

variable {first second : List Char}

/-- Escaped texts, one after the other, are escaped. -/
theorem IsEscaped.append (escaped : IsEscaped first) (escapedSecond : IsEscaped second) :
    IsEscaped (first ++ second) := by
  induction escaped with
  | nil => exact escapedSecond
  | plain isPlain _ inductionHypothesis => exact .plain isPlain inductionHypothesis
  | escape octet _ inductionHypothesis =>
    rw [List.append_assoc]
    exact .escape octet inductionHypothesis

/-- An encoded text is escaped. -/
theorem isEscaped_encode (text : List Char) : IsEscaped (encode isUnreserved text) := by
  have octets : ∀ octets : List UInt8, IsEscaped (octets.flatMap escapeOctet) := by
    intro octets
    induction octets with
    | nil => exact .nil
    | cons octet later inductionHypothesis => exact .escape octet inductionHypothesis
  induction text with
  | nil => exact .nil
  | cons character rest inductionHypothesis =>
    have written : encode isUnreserved (character :: rest) =
        (if isUnreserved character then [character] else escape character) ++
          encode isUnreserved rest := List.flatMap_cons
    rw [written]
    split
    · next isPlain => exact .plain (.inr isPlain) inductionHypothesis
    · exact (octets _).append inductionHypothesis

/-- Escaped parts with slashes between them are escaped. -/
theorem isEscaped_unfields {parts : List (List Char)} (each : ∀ part ∈ parts, IsEscaped part) :
    IsEscaped (Text.unfields '/' parts) := by
  induction parts with
  | nil => exact .nil
  | cons part later inductionHypothesis =>
    have escaped := each part (by simp)
    cases later with
    | nil => simpa [Text.unfields] using escaped
    | cons next others =>
      rw [Text.unfields_cons_cons]
      exact escaped.append (.plain (.inl rfl)
        (inductionHypothesis fun other isOther => each other (by simp [isOther])))

end Text.Percent

namespace Accessor

variable {accessor : Accessor} {base url : Url} {key : String}

theorem isEscaped_keyPath (key : String) : Text.Percent.IsEscaped (keyPath key) := by
  refine Text.Percent.isEscaped_unfields fun part isPart => ?_
  obtain ⟨segment, -, rfl⟩ := List.mem_map.1 isPart
  exact Text.Percent.isEscaped_encode segment

/-- A base URL is plain when there is nothing behind its path, and the path is resolved. -/
structure IsPlain (serverUrl : List Char) : Prop where
  noQuery : '?' ∉ serverUrl
  noFragment : '#' ∉ serverUrl
  resolved : Url.IsResolved (Url.split serverUrl).path

theorem IsPlain.isBare {serverUrl : List Char} (plain : IsPlain serverUrl) : Url.IsBare serverUrl :=
  Url.isBare_of_not_mem plain.noQuery plain.noFragment

theorem IsBase.query_eq (isBase : accessor.IsBase base)
    (bare : Url.IsBare accessor.serverUrl.toList) : base.query = none := by
  obtain ⟨host, port, -, -, rfl, -⟩ :=
    Url.ofWritten_eq_ok_iff.1 (Url.read_eq_ok_iff.1 isBase.read).2
  simp [Url.Written.assemble, bare.1]

/-- The URL of a key behind a plain base: nothing but its length can be wrong with its address, and
the written path is put behind that of the base. -/
theorem urlOf_keyAddress_of_isPlain (isBase : accessor.IsBase base)
    (plain : IsPlain accessor.serverUrl.toList)
    (names : ∀ segment ∈ keySegments key, Url.isDotSegment segment = false) :
    urlOf (accessor.keyAddress key) none =
      if (accessor.keyAddress key).length ≤ Url.lengthLimit then
        .ok { base with path := base.path ++ writtenPath key }
      else .error .tooLong :=
  urlOf_keyAddress_of_isBare isBase plain.isBare names

/-- Whatever the query, the URL of a key has the path of the base with the written path behind it,
and the query. -/
theorem url_of_urlOf (isBase : accessor.IsBase base) (plain : IsPlain accessor.serverUrl.toList)
    (names : ∀ segment ∈ keySegments key, Url.isDotSegment segment = false)
    {query : Option (List Char)} (made : urlOf (accessor.keyAddress key) query = .ok url) :
    url.path = base.path ++ writtenPath key ∧
      url.query = query.map (Text.Percent.encode Url.isQuerySafe) := by
  have path : url.path = accessor.pathBehind base key := path_of_urlOf_behind isBase names made
  rw [pathBehind, if_pos plain.isBare] at path
  refine ⟨path, ?_⟩
  cases query with
  | none =>
    rw [urlOf_keyAddress_of_isPlain isBase plain names] at made
    split at made <;> cases made
    exact isBase.query_eq plain.isBare
  | some query =>
    obtain ⟨unqueried, -, changed⟩ := urlOf_some_eq_ok_iff.1 made
    exact query_of_withQuery changed

/-- An operation with texts and numbers for its arguments. -/
inductive Command where
  | read
  /-- Write a value, and let it expire after a lifetime if there is one. -/
  | write (value : String) (lifetime : Option Int)
  | remove
  | readTree (recursive : Bool)
deriving DecidableEq

namespace Command

/-- The operation of a command. -/
def operation : Command → Operation
  | .read => .read
  | .write value none => .write (.text value) .null
  | .write value (some lifetime) => .write (.text value) (.int lifetime)
  | .remove => .remove
  | .readTree recursive => .readTree recursive

/-- The query that tells how deep a directory is listed. -/
def query : Command → Option String
  | .readTree true => some "recursive=true"
  | .readTree false => some "recursive=false"
  | _ => none

/-- The fields of the form that tells what is written. -/
def fields : Command → Option (List (String × String))
  | .write value lifetime =>
    some (("value", value) :: lifetime.toList.map fun seconds => ("ttl", Number.integerText seconds))
  | _ => none

/-- The query of a command is put into a URL as it is. -/
theorem map_encode_query (command : Command) :
    command.operation.query?.map (Text.Percent.encode Url.isQuerySafe) =
      command.query.map String.toList := by
  cases command with
  | readTree recursive => cases recursive <;> decide +kernel
  | write value lifetime => cases lifetime <;> rfl
  | _ => rfl

/-- The form of a command reads back as its fields. -/
theorem map_read_form {command : Command} {form : Option String}
    (isForm : command.operation.form? = .ok form) : form.map Form.read = command.fields := by
  rcases command with _ | ⟨value, _ | lifetime⟩ | _ | recursive
  all_goals simp only [operation, Operation.form?] at isForm
  all_goals cases isForm
  · rfl
  · simp [Form.read_write, Operation.formFields, Form.fields, Form.values, Form.valueText, fields]
  · simp [Form.read_write, Operation.formFields, Form.fields, Form.values, Form.valueText, fields]
  · rfl
  · rfl

/-- The command that a method, a query and the fields of a form tell. -/
def ofParts? : Method → Option String → Option (List (String × String)) → Option Command
  | .get, none, none => some .read
  | .get, some "recursive=true", none => some (.readTree true)
  | .get, some "recursive=false", none => some (.readTree false)
  | .put, none, some [("value", value)] => some (.write value none)
  | .put, none, some [("value", value), ("ttl", lifetime)] =>
    (Number.readInteger? lifetime).map fun seconds => .write value (some seconds)
  | .delete, none, none => some .remove
  | _, _, _ => none

/-- A command is told by its parts. -/
theorem ofParts?_eq {command : Command} (isWritable : command.operation.IsWritable) :
    ofParts? command.operation.method command.query command.fields = some command := by
  cases command with
  | write value lifetime =>
    cases lifetime with
    | none => rfl
    | some seconds =>
      have read : Number.readInteger? (Number.integerText seconds) = some seconds :=
        Number.readInteger?_integerText isWritable.2
      simp [ofParts?, operation, Operation.method, query, fields, read]
  | readTree recursive => cases recursive <;> rfl
  | _ => rfl

end Command

/-- An operation whose arguments can be written out sends one request on an open client, when its
timeout is accepted and its address is a URL. -/
theorem exists_requestsOf_of_isWritable {operation : Operation} {timeout : Option TimeoutSetting}
    {effective : Timeout} (isWritable : operation.IsWritable)
    (isTimeout : Timeout.effective accessor.timeout timeout = .ok effective)
    (isUrl : urlOf (accessor.keyAddress key) operation.query? = .ok url) :
    ∃ request, accessor.requestsOf true ⟨operation, .text key, timeout⟩ = [request] := by
  obtain ⟨attempt, prepared⟩ := exists_attempt_of_isWritable isWritable isTimeout key
  obtain ⟨isKey, -, isAddress, isRequest⟩ := isAttempt_of_prepare prepared
  obtain rfl : key = attempt.key := by simpa using isKey
  cases ready : attempt.request with
  | error fault =>
    rw [ready, isAddress, isUrl] at isRequest
    cases isRequest
  | ok request => exact ⟨request, by rw [requestsOf, prepared]; simp [ready, sent]⟩

/-- A call of a command on a key has recorded a request. -/
inductive Records (accessor : Accessor) (command : Command) (key : String) (request : Request) :
    Prop where
  | run {State : Type} (serve : Server State) (isOpen : Bool) (timeout : Option TimeoutSetting)
      (transcript : Transcript State)
      (recorded : (accessor.perform serve isOpen ⟨command.operation, .text key, timeout⟩
        transcript).2.requests = transcript.requests ++ [request])

/-- What is recorded for a call is made from its operation and from the address of its key. -/
theorem Records.made {command : Command} {request : Request}
    (records : accessor.Records command key request) :
    request.method = command.operation.method ∧
      urlOf (accessor.keyAddress key) command.operation.query? = .ok request.url ∧
      command.operation.form? = .ok request.form := by
  obtain ⟨serve, isOpen, timeout, transcript, recorded⟩ := records
  obtain ⟨-, attempt, prepared, ready⟩ :=
    mem_requestsOf_iff.1 (mem_requestsOf_of_recorded recorded)
  obtain ⟨isKey, -, isAddress, made⟩ := isAttempt_of_prepare prepared
  obtain rfl : key = attempt.key := by simpa using isKey
  rw [ready, isAddress] at made
  exact ⟨made.2.1, made.1, made.2.2.1⟩

/-- What a request tells of the command and the key that it was recorded for. -/
structure Tells (base : Url) (command : Command) (key : String) (request : Request) : Prop where
  method : request.method = command.operation.method
  /-- The path has the escaped segments of the key behind those of the base and the keyspace. -/
  path : ∃ place, request.url.path = base.path ++ keyspacePath ++ place ∧
    Text.Percent.IsEscaped place ∧
    (Text.fields '/' place).map Text.Percent.decode =
      Text.fields '/' (key.toList.dropWhile (· = '/'))
  query : request.url.query = command.query.map String.toList
  form : request.form.map Form.read = command.fields

/-- Calls about which requests tell all: of a command whose arguments can be written out, on a key
without dot segments. -/
structure IsOrdinary (command : Command) (key : String) : Prop where
  isWritable : command.operation.IsWritable
  names : ∀ segment ∈ keySegments key, Url.isDotSegment segment = false

/-- What is recorded for an ordinary call tells its command and its key. -/
theorem Records.tells {command : Command} {request : Request} (isBase : accessor.IsBase base)
    (plain : IsPlain accessor.serverUrl.toList) (ordinary : IsOrdinary command key)
    (records : accessor.Records command key request) : Tells base command key request := by
  obtain ⟨isMethod, isUrl, isForm⟩ := records.made
  obtain ⟨path, query⟩ := url_of_urlOf isBase plain ordinary.names isUrl
  exact {
    method := isMethod
    path := ⟨keyPath key, by rw [path, writtenPath_eq, List.append_assoc], isEscaped_keyPath key, by
      rw [fields_keyPath, map_decode_spell, keySegments]⟩
    query := by rw [query, Command.map_encode_query]
    form := Command.map_read_form isForm }

/-- Requests that tell the same tell of one command, and of one key but for slashes in front. -/
theorem Tells.unique {command otherCommand : Command} {otherKey : String} {request other : Request}
    (tells : Tells base command key request) (tellsOther : Tells base otherCommand otherKey other)
    (isWritable : command.operation.IsWritable)
    (isOtherWritable : otherCommand.operation.IsWritable)
    (sameMethod : other.method = request.method) (sameUrl : other.url = request.url)
    (sameForm : other.form = request.form) :
    otherCommand = command ∧ plainKey otherKey = plainKey key := by
  constructor
  · have sameQuery : otherCommand.query = command.query := by
      have queries := (tellsOther.query.symm.trans (congrArg Url.query sameUrl)).trans tells.query
      exact Option.map_injective (fun _ _ => String.toList_injective) queries
    have told := Command.ofParts?_eq isOtherWritable
    rw [← tellsOther.method, ← tellsOther.form, sameMethod, sameForm, sameQuery, tells.method,
      tells.form, Command.ofParts?_eq isWritable] at told
    exact (Option.some.inj told).symm
  · obtain ⟨place, path, -, segments⟩ := tells.path
    obtain ⟨otherPlace, otherPath, -, otherSegments⟩ := tellsOther.path
    rw [sameUrl, path] at otherPath
    obtain rfl := List.append_cancel_left otherPath
    have sameKey := congrArg (Text.unfields '/') (otherSegments.symm.trans segments)
    rw [Text.unfields_fields, Text.unfields_fields] at sameKey
    rw [plainKey, plainKey, sameKey]

/-- Requests can be read back to the calls that they were recorded for. -/
structure ReadBack (accessor : Accessor) (base : Url) : Prop where
  atMostOne : ∀ {State : Type} (serve : Server State) (isOpen : Bool) (call : Call)
    (transcript : Transcript State), ∃ added,
      (accessor.perform serve isOpen call transcript).2.requests = transcript.requests ++ added ∧
        added.length ≤ 1
  /-- A call is recorded when the client is open, the timeout is accepted and the address is a
  URL. -/
  recorded : ∀ {State : Type} (serve : Server State) (command : Command) (key : String)
    (timeout : Option TimeoutSetting) (transcript : Transcript State), IsOrdinary command key →
    (∃ effective, Timeout.effective accessor.timeout timeout = .ok effective) →
    (∃ url, urlOf (accessor.keyAddress key) command.operation.query? = .ok url) →
    ∃ request,
      (accessor.perform serve true ⟨command.operation, .text key, timeout⟩ transcript).2.requests =
        transcript.requests ++ [request]
  /-- Without a query, an address within the limit is a URL. -/
  isUrl : ∀ command key, IsOrdinary command key → command.query = none →
    (accessor.keyAddress key).length ≤ Url.lengthLimit →
    ∃ url, urlOf (accessor.keyAddress key) command.operation.query? = .ok url
  tells : ∀ command key request, IsOrdinary command key → accessor.Records command key request →
    Tells base command key request
  /-- The same method, URL and form are only sent for the same command and the same key. -/
  unique : ∀ command otherCommand key otherKey request other, IsOrdinary command key →
    IsOrdinary otherCommand otherKey → accessor.Records command key request →
    accessor.Records otherCommand otherKey other → other.method = request.method →
    other.url = request.url → other.form = request.form →
      otherCommand = command ∧ plainKey otherKey = plainKey key

/-- An accessor whose base URL is plain has its requests read back. -/
theorem requests_readBack {serverUrl : Document} {setting : Option TimeoutSetting}
    (created : create serverUrl setting = .ok accessor)
    (plain : IsPlain accessor.serverUrl.toList) :
    ∃ base, accessor.IsBase base ∧ accessor.ReadBack base := by
  obtain ⟨base, isBase⟩ := exists_isBase_of_create created
  refine ⟨base, isBase, ?_, ?_, ?_, ?_, ?_⟩
  · intro State serve isOpen call transcript
    exact ⟨accessor.requestsOf isOpen call, requests_perform,
      (accessor.requestsOf_spec isOpen call).1⟩
  · rintro State serve command key timeout transcript ordinary ⟨effective, isTimeout⟩ ⟨url, isUrl⟩
    obtain ⟨request, areRequests⟩ :=
      exists_requestsOf_of_isWritable ordinary.isWritable isTimeout isUrl
    exact ⟨request, requests_perform.trans (congrArg _ areRequests)⟩
  · intro command key ordinary noQuery short
    have none : command.operation.query? = none := by
      have queries := command.map_encode_query
      rwa [noQuery, Option.map_none, Option.map_eq_none_iff] at queries
    exact ⟨_, by rw [none, urlOf_keyAddress_of_isPlain isBase plain ordinary.names, if_pos short]⟩
  · intro command key request ordinary records
    exact records.tells isBase plain ordinary
  · intro command otherCommand key otherKey request other ordinary otherOrdinary records otherRecords
    exact (records.tells isBase plain ordinary).unique
      (otherRecords.tells isBase plain otherOrdinary) ordinary.isWritable otherOrdinary.isWritable

/-- An accessor whose base URL has a path, with a blank in it. -/
def proxied : Accessor :=
  { serverUrl := "http://127.0.0.1:4001/key store", timeout := .standard }

/-- The law at a write that has a need of escapes everywhere: in the path of the base, in the key, in
the value and for the sign of the lifetime. -/
theorem requests_readBack_proxied :
    ∃ base request, proxied.IsBase base ∧
      proxied.Records (.write "a = 1 & b + 2" (some (-5))) "//50%?#//\u00E9" request ∧
      Tells base (.write "a = 1 & b + 2" (some (-5))) "//50%?#//\u00E9" request := by
  have created : create (.text "http://127.0.0.1:4001/key store/") none = .ok proxied := by
    decide +kernel
  have plain : IsPlain proxied.serverUrl.toList :=
    ⟨by decide +kernel, by decide +kernel, by decide +kernel⟩
  have ordinary : IsOrdinary (.write "a = 1 & b + 2" (some (-5))) "//50%?#//\u00E9" :=
    ⟨⟨rfl, by decide +kernel⟩, by decide +kernel⟩
  obtain ⟨base, isBase, readBack⟩ := requests_readBack created plain
  have isUrl := readBack.isUrl _ _ ordinary rfl (by decide +kernel)
  obtain ⟨request, recorded⟩ :=
    readBack.recorded Script.serve _ _ none { server := [] } ordinary ⟨_, rfl⟩ isUrl
  have records := Records.run Script.serve true none { server := [] } recorded
  exact ⟨base, request, isBase, records, readBack.tells _ _ _ ordinary records⟩

end Accessor

end Keyspace
