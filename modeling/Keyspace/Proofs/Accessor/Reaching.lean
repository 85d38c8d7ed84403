import Keyspace.Proofs.Session
import Keyspace.Proofs.Url.Rereading

/-!
# Reaching a server

The base URL is checked when an accessor is made, so that nothing but its length is wrong with an
address that is made of it afterwards. `reaches_server` says so: every request for a key or for the
version is sent, to the host of the base URL. A listing has a query, for which its URL is read a
second time from its own components; the host may be escaped once more then. A key that cannot be
written in UTF-8 has no address, and nothing is sent for it.
-/

namespace Keyspace

/-- A URL shows the scheme and the host that another one has when this is read as often: once if
there is no query, and once more from its components if there is one. -/
def Url.ShowsAs (base : Url) (query : Option (List Char)) (url : Url) : Prop :=
  ∃ shown, (match query with
    | none => shown = base
    | some query => Url.ofWritten (Url.writtenWith query base) = .ok shown) ∧
    url.scheme = shown.scheme ∧ url.host = shown.host

namespace Accessor

variable {State : Type} {serve : Server State} {accessor : Accessor} {isOpen : Bool}
  {transcript : Transcript State} {base : Url} {address : String}

/-- An address is the base URL with a rooted path behind it, in which nothing has to be escaped. -/
def IsBehind (accessor : Accessor) (address : String) : Prop :=
  ∃ rest, address.toList = accessor.serverUrl.toList ++ rest ∧ rest.head? = some '/' ∧
    ∀ character ∈ rest, Url.isPathCharacter character = true ∧ Url.isControl character = false

/-- The address of a key is behind the base URL, whatever the key. -/
theorem isBehind_keyAddress (accessor : Accessor) (key : String) :
    accessor.IsBehind (accessor.keyAddress key) :=
  ⟨writtenPath key, toList_keyAddress accessor key, head?_writtenPath key,
    fun _ isPath => (isPlain_of_mem_pathTo isPath).2⟩

/-- The address of the version is behind the base URL. -/
theorem isBehind_versionAddress (accessor : Accessor) :
    accessor.IsBehind accessor.versionAddress := by
  have plain : "/version".toList.all (fun character =>
      Url.isPathCharacter character && !Url.isControl character) = true := by decide +kernel
  refine ⟨"/version".toList, by simp [versionAddress], rfl, fun character isPath => ?_⟩
  simpa using List.all_eq_true.1 plain character isPath

/-- An address is within the limit for URLs, as it is written and as it is read. -/
structure IsWithinLimit (address : String) : Prop where
  written : address.length ≤ Url.lengthLimit
  read : ∀ url, urlOf address none = .ok url → url.IsShort

theorem IsBase.isNormal (isBase : accessor.IsBase base) : base.IsNormal :=
  Url.isNormal_of_ofWritten (Url.read_eq_ok_iff.1 isBase.read).2 isBase.ne_nil.1 isBase.ne_nil.2

/-- Without a query, nothing but its length is wrong with an address behind a base URL. -/
theorem exists_urlOf_none (isBase : accessor.IsBase base) (isBehind : accessor.IsBehind address)
    (short : address.length ≤ Url.lengthLimit) :
    ∃ url, urlOf address none = .ok url ∧ url.IsNormal ∧ url.scheme = base.scheme ∧
      url.host = base.host := by
  obtain ⟨rest, whole, below, plain⟩ := isBehind
  obtain ⟨scheme, host⟩ := isBase.ne_nil
  rw [← String.length_toList, whole] at short
  obtain ⟨url, isRead, sameScheme, sameHost⟩ :=
    Url.exists_read_append isBase.read scheme host below plain short
  refine ⟨url, by rw [urlOf_none, whole, isRead], ?_, sameScheme, sameHost⟩
  exact Url.isNormal_of_ofWritten (Url.read_eq_ok_iff.1 isRead).2 (sameScheme ▸ scheme)
    (sameHost ▸ host)

/-- With a query as well, nothing but its length is wrong with an address behind a base URL. -/
theorem exists_urlOf_some (isBase : accessor.IsBase base) (isBehind : accessor.IsBehind address)
    (within : IsWithinLimit address) {query : List Char} (few : query.length ≤ Url.lengthLimit) :
    ∃ url, urlOf address (some query) = .ok url ∧ base.ShowsAs (some query) url := by
  obtain ⟨url, isUrl, isNormal, sameScheme, sameHost⟩ :=
    exists_urlOf_none isBase isBehind within.written
  have sameText : url.hostText = base.hostText := by rw [Url.hostText, Url.hostText, sameHost]
  have isQueried : urlOf address (some query) = Url.ofWritten (Url.writtenWith query url) := by
    have puts : urlOf address (some query) = (urlOf address none).bind (Url.withQuery query) := by
      rw [urlOf_none]
      rfl
    rw [puts, isUrl]
    exact Url.withQuery_of_isShort (within.read url isUrl) few
  obtain ⟨again, isAgain, scheme, host⟩ := Url.exists_ofWritten_writtenWith isNormal query
  obtain ⟨baseAgain, isBaseAgain, baseScheme, baseHost⟩ :=
    Url.exists_ofWritten_writtenWith isBase.isNormal query
  refine ⟨again, isQueried.trans isAgain, baseAgain, isBaseAgain, ?_, ?_⟩
  · rw [scheme, baseScheme, sameScheme]
  · rw [sameText, baseHost] at host
    exact (Except.ok.inj host).symm

/-- The URL of an address shows the scheme and the host of the base URL. -/
theorem exists_urlOf (isBase : accessor.IsBase base) (isBehind : accessor.IsBehind address)
    (within : IsWithinLimit address) {query : Option (List Char)}
    (few : ∀ characters ∈ query, characters.length ≤ Url.lengthLimit) :
    ∃ url, urlOf address query = .ok url ∧ base.ShowsAs query url := by
  cases query with
  | none =>
    obtain ⟨url, isUrl, -, sameScheme, sameHost⟩ := exists_urlOf_none isBase isBehind within.written
    exact ⟨url, isUrl, base, rfl, sameScheme, sameHost⟩
  | some query => exact exists_urlOf_some isBase isBehind within (few query rfl)

/-- The queries of operations are short. -/
theorem length_query?_le (operation : Operation) :
    ∀ query ∈ operation.query?, query.length ≤ Url.lengthLimit := by
  intro query isQuery
  cases operation with
  | readTree recursive => cases recursive <;> cases isQuery <;> decide +kernel
  | _ => cases isQuery

/-- A request reaches the host of the base URL when its URL is that of an address, and shows the
scheme and the host of the base. -/
structure Reaches (base : Url) (address : String) (query : Option (List Char))
    (request : Request) : Prop where
  url : urlOf address query = .ok request.url
  shown : base.ShowsAs query request.url

/-- An operation that sends its request meets the reply of the server to it. -/
structure Exchanges (serve : Server State) (accessor : Accessor) (base : Url)
    (operation : Operation) (key : String) (timeout : Option TimeoutSetting)
    (transcript : Transcript State) (request : Request) : Prop where
  reaches : Reaches base (accessor.keyAddress key) operation.query? request
  recorded : (accessor.perform serve true ⟨operation, .text key, timeout⟩ transcript).2.requests =
    transcript.requests ++ [request]
  meets : Meets serve accessor true operation key timeout transcript
    (serve transcript.server request).1

/-- The attempt at a call whose address is a URL has a request for this URL. -/
theorem IsAttempt.exists_request {call : Call} {attempt : Attempt} {url : Url}
    (isAttempt : IsAttempt accessor call attempt)
    (isUrl : urlOf (accessor.keyAddress attempt.key) call.operation.query? = .ok url) :
    ∃ request, attempt.request = .ok request ∧ request.url = url ∧
      request.method = call.operation.method ∧ call.operation.form? = .ok request.form ∧
      Timeout.effective accessor.timeout call.timeout = .ok request.timeout := by
  have made := isAttempt.request
  rw [isAttempt.address] at made
  cases isRequest : attempt.request with
  | error fault =>
    rw [isRequest] at made
    cases made.symm.trans isUrl
  | ok request =>
    rw [isRequest] at made
    exact ⟨request, rfl, Except.ok.inj (made.1.symm.trans isUrl), made.2⟩

/-- An operation whose URL is known sends one request to it. -/
theorem exists_exchange {operation : Operation} {key : String} {timeout : Option TimeoutSetting}
    {effective : Timeout} {url : Url} (isWritable : operation.IsWritable)
    (isTimeout : Timeout.effective accessor.timeout timeout = .ok effective)
    (isUrl : urlOf (accessor.keyAddress key) operation.query? = .ok url)
    (shown : base.ShowsAs operation.query? url) :
    ∃ request, Exchanges serve accessor base operation key timeout transcript request := by
  obtain ⟨attempt, prepared⟩ := exists_attempt_of_isWritable isWritable isTimeout key
  have isAttempt := isAttempt_of_prepare prepared
  obtain rfl : key = attempt.key := by simpa using isAttempt.key
  obtain ⟨request, isRequest, rfl, isMethod, isForm, isEffective⟩ := isAttempt.exists_request isUrl
  refine ⟨request, ⟨isUrl, shown⟩, ?_, .served request rfl isUrl isMethod isForm isEffective⟩
  simp only [requests_perform, prepared, isRequest, sent, if_true]

/-- Asking for the version sends one request to its address. -/
theorem exists_versionRequest (isBase : accessor.IsBase base)
    (within : IsWithinLimit accessor.versionAddress) {timeout : Option TimeoutSetting}
    {effective : Timeout} (isTimeout : Timeout.effective accessor.timeout timeout = .ok effective) :
    ∃ request, Reaches base accessor.versionAddress none request ∧
      (accessor.version serve true timeout transcript).2.requests =
        transcript.requests ++ [request] := by
  obtain ⟨url, isUrl, -, sameScheme, sameHost⟩ :=
    exists_urlOf_none isBase accessor.isBehind_versionAddress within.written
  have shown : base.ShowsAs none url := ⟨base, rfl, sameScheme, sameHost⟩
  refine ⟨{ method := .get, url, form := none, timeout := effective }, ⟨isUrl, shown⟩, ?_⟩
  rw [sent_version.1]
  simp [versionRequests, isTimeout, versionRequest, isUrl, Except.map, sent]

/-- What is sent by an accessor whose base URL has been accepted, within the limit for URLs: every
request for a key and for the version reaches the host of the base URL. -/
theorem reaches_server {serverUrl : Document} {default : Option TimeoutSetting}
    (created : create serverUrl default = .ok accessor) (serve : Server State)
    (transcript : Transcript State) :
    ∃ base, accessor.IsBase base ∧
      (∀ (operation : Operation) (key : String) (timeout : Option TimeoutSetting)
          (effective : Timeout), operation.IsWritable →
        Timeout.effective accessor.timeout timeout = .ok effective →
        IsWithinLimit (accessor.keyAddress key) →
        ∃ request, Exchanges serve accessor base operation key timeout transcript request) ∧
      ∀ (timeout : Option TimeoutSetting) (effective : Timeout),
        Timeout.effective accessor.timeout timeout = .ok effective →
        IsWithinLimit accessor.versionAddress →
        ∃ request, Reaches base accessor.versionAddress none request ∧
          (accessor.version serve true timeout transcript).2.requests =
            transcript.requests ++ [request] := by
  obtain ⟨base, isBase⟩ := exists_isBase_of_create created
  refine ⟨base, isBase, ?_, ?_⟩
  · intro operation key timeout effective isWritable isTimeout within
    obtain ⟨url, isUrl, shown⟩ := exists_urlOf isBase (accessor.isBehind_keyAddress key) within
      (length_query?_le operation)
    exact exists_exchange isWritable isTimeout isUrl shown
  · intro timeout effective isTimeout within
    exact exists_versionRequest isBase within isTimeout

/-- What can be evaluated of the URL of an address tells whether the address is within the limit. -/
theorem isWithinLimit_of_evaluated (written : address.length ≤ Url.lengthLimit)
    (evaluated : (urlOf address none).toOption.map (fun url =>
      decide (url.characters.length ≤ Url.lengthLimit)) = some true) : IsWithinLimit address where
  written := written
  read := by
    intro url isUrl
    rw [isUrl] at evaluated
    refine Url.isShort_of_length ?_
    simpa [Except.toOption] using evaluated

/-- An accessor for a base URL with user information, an IPv6 address with a zone, a port, a path
with dot segments, a query and a fragment. -/
def elaborate : Accessor :=
  { serverUrl := "HTTP://u:p@[::1%a]:80/x/../y?q#f", timeout := .standard }

/-- The law at a listing of this accessor, for a key with characters that are escaped. -/
theorem reaches_server_elaborate :
    create (.text "HTTP://u:p@[::1%a]:80/x/../y?q#f/") none = .ok elaborate ∧
      IsWithinLimit (elaborate.keyAddress "/\n%#? ") ∧
      ∃ base, elaborate.IsBase base ∧
        ∃ request, Exchanges Script.serve elaborate base (.readTree true) "/\n%#? " none
          { server := [] } request := by
  have created : create (.text "HTTP://u:p@[::1%a]:80/x/../y?q#f/") none = .ok elaborate := by
    decide +kernel
  have within : IsWithinLimit (elaborate.keyAddress "/\n%#? ") :=
    isWithinLimit_of_evaluated (by decide +kernel) (by decide +kernel)
  obtain ⟨base, isBase, performed, -⟩ := reaches_server created Script.serve { server := [] }
  exact ⟨created, within, base, isBase,
    performed (.readTree true) "/\n%#? " none .standard trivial rfl within⟩

/-- A key that cannot be written in UTF-8 has nothing sent for it, although its base URL has been
accepted. -/
theorem exists_read_not_sent :
    create (.text standardUrl) none = .ok standard ∧
      (standard.perform Script.serve true ⟨.read, .broken .single, none⟩
        { server := [] }).2.requests = [] :=
  ⟨create_standard.1, rfl⟩

end Accessor

end Keyspace
