import Keyspace.Document.Shown

/-!
# Faults

A fault is something raised in the place of an answer: by the transport, by a malformed document,
or by an argument that cannot be used. It has a kind, which messages and log lines name, and a
message. Access errors are the faults of this library; they also record the key that was asked
for and the fault behind them.
-/

namespace Keyspace

/-- The kinds of access errors. -/
inductive AccessKind where
  | access
  | network
  | parse
  | configuration
deriving DecidableEq, Repr

/-- The kinds of faults. -/
inductive FaultKind where
  | connect
  | connectTimeout
  | readTimeout
  | writeTimeout
  | poolTimeout
  | readFailure
  | writeFailure
  | closeFailure
  | proxy
  | unsupportedProtocol
  | remoteProtocol
  | localProtocol
  | decoding
  | tooManyRedirects
  | invalidUrl
  | cookieConflict
  | runtime
  | notImplemented
  | recursion
  | value
  | key
  | type
  | system
  | attribute
  | connectionRefused
  | overflow
  | malformedJson
  | assertion
  | unicode
  | unicodeDecode
  | unicodeEncode
  | access (kind : AccessKind)
deriving DecidableEq, Repr

namespace AccessKind

/-- The name of a kind of access error. -/
def name : AccessKind → String
  | .access => "EtcdAccessError"
  | .network => "NetworkError"
  | .parse => "ParseError"
  | .configuration => "InvalidConfiguration"

end AccessKind

namespace FaultKind

/-- The name of a kind of fault. -/
def name : FaultKind → String
  | .connect => "ConnectError"
  | .connectTimeout => "ConnectTimeout"
  | .readTimeout => "ReadTimeout"
  | .writeTimeout => "WriteTimeout"
  | .poolTimeout => "PoolTimeout"
  | .readFailure => "ReadError"
  | .writeFailure => "WriteError"
  | .closeFailure => "CloseError"
  | .proxy => "ProxyError"
  | .unsupportedProtocol => "UnsupportedProtocol"
  | .remoteProtocol => "RemoteProtocolError"
  | .localProtocol => "LocalProtocolError"
  | .decoding => "DecodingError"
  | .tooManyRedirects => "TooManyRedirects"
  | .invalidUrl => "InvalidURL"
  | .cookieConflict => "CookieConflict"
  | .runtime => "RuntimeError"
  | .notImplemented => "NotImplementedError"
  | .recursion => "RecursionError"
  | .value => "ValueError"
  | .key => "KeyError"
  | .type => "TypeError"
  | .system => "OSError"
  | .attribute => "AttributeError"
  | .connectionRefused => "ConnectionRefusedError"
  | .overflow => "OverflowError"
  | .malformedJson => "JSONDecodeError"
  | .assertion => "AssertionError"
  | .unicode => "UnicodeError"
  | .unicodeDecode => "UnicodeDecodeError"
  | .unicodeEncode => "UnicodeEncodeError"
  | .access kind => kind.name

/-- The kinds that the transport raises while a request is under way. -/
def transport : List FaultKind :=
  [.connect, .connectTimeout, .readTimeout, .writeTimeout, .poolTimeout, .readFailure,
   .writeFailure, .closeFailure, .proxy, .unsupportedProtocol, .remoteProtocol, .localProtocol,
   .decoding, .tooManyRedirects]

/-- Every kind of fault. -/
def all : List FaultKind :=
  transport ++
  [.invalidUrl, .cookieConflict, .runtime, .notImplemented, .recursion, .value, .key, .type,
   .system, .attribute, .connectionRefused, .overflow, .malformedJson, .assertion, .unicode,
   .unicodeDecode, .unicodeEncode, .access .access, .access .network, .access .parse,
   .access .configuration]

/-- The kind with a name. -/
def ofName? (name : String) : Option FaultKind :=
  all.find? fun kind => kind.name = name

/-- A request that fails with such a fault is an outcome of its own; other faults end the call. -/
def isRequestFault (kind : FaultKind) : Bool :=
  kind ∈ transport || kind = .invalidUrl || kind = .runtime || kind = .notImplemented ||
    kind = .recursion

/-- The name of a kind with the place that it belongs to, as log lines give it. -/
def qualifiedName (kind : FaultKind) : String :=
  match kind with
  | .access inner => "etcd_config_bridge.core.errors." ++ inner.name
  | .malformedJson => "json.decoder.JSONDecodeError"
  | _ =>
    if kind ∈ transport || kind = .invalidUrl || kind = .cookieConflict then "httpx." ++ kind.name
    else kind.name

end FaultKind

/-- A fault: its kind and its message. -/
structure Fault where
  kind : FaultKind
  message : String
deriving DecidableEq, Repr

namespace Fault

/-- A key that is not there; the message is the key in quoted form. -/
def missingKey (key : Document) : Fault := ⟨.key, key.quotedForm⟩

/-- The fault of a kind raised with a text. -/
def raised (kind : FaultKind) (detail : String) : Fault :=
  if kind = .key then missingKey (.text detail) else ⟨kind, detail⟩

/-- Writing out an integer of too many digits. -/
def oversizedInteger : Fault :=
  ⟨.value, "Exceeds the limit (4300 digits) for integer string conversion; use " ++
    "sys.set_int_max_str_digits() to increase the limit"⟩

/-- An integer that no binary64 value can hold. -/
def integerTooLarge : Fault := ⟨.overflow, "int too large to convert to float"⟩

/-- Asking a codec for text that it does not give. -/
def noText : Fault := ⟨.assertion, ""⟩

/-- A document that lacks the operation of a name, because it is of another kind. -/
def lacks (document : Document) (name : String) : Fault :=
  ⟨.attribute, "'" ++ document.kindName ++ "' object has no attribute '" ++ name ++ "'"⟩

/-- A document that cannot be walked over. -/
def notIterable (document : Document) : Fault :=
  ⟨.type, "'" ++ document.kindName ++ "' object is not iterable"⟩

/-- A document in the place of a method. -/
def notCallable (document : Document) : Fault :=
  ⟨.type, "'" ++ document.kindName ++ "' object is not callable"⟩

/-- The kind and the message in one text. -/
def summary (fault : Fault) : String := fault.kind.name ++ ": " ++ fault.message

/-- The text of a fault in a log line: the qualified kind, and the message unless it is empty. -/
def trace (fault : Fault) : String :=
  if fault.message = "" then fault.kind.qualifiedName
  else fault.kind.qualifiedName ++ ": " ++ fault.message

end Fault

/-- An error of an access to the keyspace. -/
structure AccessError where
  kind : AccessKind
  message : String
  key : Option String := none
  cause : Option Fault := none
  status : Option Int := none
deriving DecidableEq, Repr

namespace AccessError

/-- The description kept in flat maps: the fault behind the error, or else the error itself. -/
def describe (error : AccessError) : String :=
  match error.cause with
  | some cause => cause.summary
  | none => error.kind.name ++ ": " ++ error.message

/-- The error as a fault. -/
def toFault (error : AccessError) : Fault := ⟨.access error.kind, error.message⟩

end AccessError

/-- What leaves an operation in the place of an answer. -/
inductive Failure where
  | access (error : AccessError)
  | fault (fault : Fault)
deriving DecidableEq, Repr

namespace Failure

/-- A fault leaves as it is; one of the library's own kinds is an access error without a key. -/
def ofFault (raised : Fault) : Failure :=
  match raised.kind with
  | .access kind => .access { kind, message := raised.message }
  | _ => .fault raised

/-- The failure as a fault. -/
def toFault : Failure → Fault
  | .access error => error.toFault
  | .fault raised => raised

/-- A setting or argument that the library refuses. -/
def invalidConfiguration (message : String) (cause : Option Fault := none) : Failure :=
  .access { kind := .configuration, message, cause }

end Failure

end Keyspace
