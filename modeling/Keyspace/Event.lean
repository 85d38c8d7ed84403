import Keyspace.Exchange
import Keyspace.Journal.Notice

/-!
# Events

What accessors, property sources and providers tell about their work. Each event is written down
as a notice, with its particulars in extra fields. No event carries a value of the keyspace.
-/

namespace Keyspace

open Journal

/-- The phrase that goes with a status. -/
def reasonPhrases : List (Int × String) :=
  [(100, "Continue"), (101, "Switching Protocols"), (102, "Processing"), (103, "Early Hints"),
   (200, "OK"), (201, "Created"), (202, "Accepted"), (203, "Non-Authoritative Information"),
   (204, "No Content"), (205, "Reset Content"), (206, "Partial Content"), (207, "Multi-Status"),
   (208, "Already Reported"), (226, "IM Used"), (300, "Multiple Choices"),
   (301, "Moved Permanently"), (302, "Found"), (303, "See Other"), (304, "Not Modified"),
   (305, "Use Proxy"), (307, "Temporary Redirect"), (308, "Permanent Redirect"),
   (400, "Bad Request"), (401, "Unauthorized"), (402, "Payment Required"), (403, "Forbidden"),
   (404, "Not Found"), (405, "Method Not Allowed"), (406, "Not Acceptable"),
   (407, "Proxy Authentication Required"), (408, "Request Timeout"), (409, "Conflict"),
   (410, "Gone"), (411, "Length Required"), (412, "Precondition Failed"),
   (413, "Request Entity Too Large"), (414, "Request-URI Too Long"),
   (415, "Unsupported Media Type"), (416, "Requested Range Not Satisfiable"),
   (417, "Expectation Failed"), (418, "I'm a teapot"), (421, "Misdirected Request"),
   (422, "Unprocessable Entity"), (423, "Locked"), (424, "Failed Dependency"),
   (425, "Too Early"), (426, "Upgrade Required"), (428, "Precondition Required"),
   (429, "Too Many Requests"), (431, "Request Header Fields Too Large"),
   (451, "Unavailable For Legal Reasons"), (500, "Internal Server Error"),
   (501, "Not Implemented"), (502, "Bad Gateway"), (503, "Service Unavailable"),
   (504, "Gateway Timeout"), (505, "HTTP Version Not Supported"),
   (506, "Variant Also Negotiates"), (507, "Insufficient Storage"), (508, "Loop Detected"),
   (510, "Not Extended"), (511, "Network Authentication Required")]

/-- Something that happened. -/
inductive Event where
  /-- A request was answered. -/
  | answered (method : Method) (url : String) (status : Int)
  /-- A request brought no answer. -/
  | requestFailed (method : Method) (key url : String) (fault : Fault)
  /-- An answer had no status of success. -/
  | requestNotOk (method : Method) (key : String) (status : Int)
  /-- The body of an answer was not usable. -/
  | answerNotUsable (method : Method) (key : String) (error : AccessError)
  /-- An answer gave a number of entries. -/
  | requestCompleted (method : Method) (key : String) (entries : Nat)
  /-- A request for the version brought no answer. -/
  | versionFailed (url : String) (fault : Fault)
  /-- An answer about the version had another status than the one expected. -/
  | versionNotOk (url : String) (status : Int)
  /-- The listing of a property source failed. -/
  | sourceFailed (source directory description : String)
  /-- A configuration was built. -/
  | built (sources : List String) (keysLoaded : Nat)
  /-- The configuration was replaced by another one. -/
  | replaced
  /-- Loading the configuration failed. -/
  | loadFailed (fault : Fault)
  /-- The configuration was loaded, but some sources failed. -/
  | partiallyLoaded (failedSources : List String)
deriving DecidableEq

namespace Event

/-- The logger above all loggers of this library. -/
def libraryLogger : String := "etcd_config_bridge"

/-- The logger of requests and answers. -/
def transportLogger : String := "httpx"

/-- The logger of accessors. -/
def accessorLogger : String := libraryLogger ++ ".accessor"

/-- The logger of property sources. -/
def sourceLogger : String := libraryLogger ++ ".property_source"

/-- The logger of providers. -/
def providerLogger : String := libraryLogger ++ ".provider"

/-- An extra field with named texts and numbers. -/
def field (name : String) (members : List (String × Document)) : String × Document :=
  (name, .object members)

/-- The extra field that says what was done, in a category. -/
def action (category name : String) : String × Document :=
  field "event" [("category", .array [.text category]), ("action", .text name)]

/-- The members that tell which request an event is about. -/
def about (method : Method) (key : String) : List (String × Document) :=
  [("method", .text method.name), ("key", .text key)]

/-- Texts as a list. -/
def texts (items : List String) : Document := .array (items.map .text)

/-- An event as a notice. -/
def notice : Event → Notice
  | .answered method url status => {
      logger := transportLogger, level := Level.info
      message := .text ("HTTP Request: " ++ method.name ++ " " ++ url ++ " \"HTTP/1.1 " ++
        Number.integerText status ++ " " ++ (reasonPhrases.lookup status).getD "" ++ "\"") }
  | .requestFailed method key url fault => {
      logger := accessorLogger, level := Level.warning, message := .text "etcd_request_failed"
      extras := [action "config" "request_failed",
        field "etcd" (about method key ++ [("url", .text url)])]
      fault := some fault }
  | .requestNotOk method key status => {
      logger := accessorLogger, level := Level.debug, message := .text "etcd_request_not_ok"
      extras := [field "etcd" (about method key ++ [("status", .int status)])] }
  | .answerNotUsable method key error => {
      logger := accessorLogger, level := Level.warning
      message := .text "etcd_response_parse_failed"
      extras := [action "config" "parse_failed", field "etcd" (about method key),
        field "error" [("message", .text error.message), ("type", .text error.kind.name)]] }
  | .requestCompleted method key entries => {
      logger := accessorLogger, level := Level.debug, message := .text "etcd_request_completed"
      extras := [field "etcd" (about method key ++ [("entries", .int entries)])] }
  | .versionFailed url fault => {
      logger := accessorLogger, level := Level.warning
      message := .text "etcd_version_request_failed"
      extras := [action "config" "version_failed", field "etcd" [("url", .text url)]]
      fault := some fault }
  | .versionNotOk url status => {
      logger := accessorLogger, level := Level.warning
      message := .text "etcd_version_unexpected_status"
      extras := [field "etcd" [("url", .text url), ("status", .int status)]] }
  | .sourceFailed source directory description => {
      logger := sourceLogger, level := Level.warning
      message := .text "etcd_property_source_load_failed"
      extras := [action "config" "load_failed",
        field "etcd" [("source", .text source), ("directory", .text directory)],
        field "error" [("message", .text description)]] }
  | .built sources keysLoaded => {
      logger := providerLogger, level := Level.info
      message := .text "etcd_configuration_built"
      extras := [action "config" "built",
        field "config" [("sources", texts sources), ("keys_loaded", .int keysLoaded)]] }
  | .replaced => {
      logger := providerLogger, level := Level.info
      message := .text "etcd_configuration_replaced"
      extras := [action "config" "replaced"] }
  | .loadFailed fault => {
      logger := providerLogger, level := Level.error
      message := .text "etcd_configuration_load_failed"
      extras := [action "config" "load_failed",
        field "error" [("message", .text fault.message), ("type", .text fault.kind.name)]]
      fault := some fault }
  | .partiallyLoaded failedSources => {
      logger := providerLogger, level := Level.warning
      message := .text "etcd_configuration_partially_loaded"
      extras := [action "config" "load_incomplete",
        field "config" [("failed_sources", texts failedSources)]] }

/-- An event of this library itself, and not of its transport. -/
def isOwn (event : Event) : Bool := event.notice.logger ≠ transportLogger

/-- Only answers are events of the transport. -/
@[simp] theorem isOwn_eq_false_iff {event : Event} :
    event.isOwn = false ↔ ∃ method url status, event = .answered method url status := by
  have accessor : accessorLogger ≠ transportLogger := by decide
  have source : sourceLogger ≠ transportLogger := by decide
  have provider : providerLogger ≠ transportLogger := by decide
  cases event <;> simp [isOwn, notice, accessor, source, provider]

end Event

end Keyspace
