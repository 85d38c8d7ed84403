import Keyspace.Journal.Notice
import Keyspace.Journal.Template

/-!
# Records

A record is a notice that has been accepted by its logger. It has standard attributes and further
ones, which come from the extra fields of the notice and from the context that filters add.
-/

namespace Keyspace.Journal

/-- A notice on its way to be written. -/
structure Record where
  logger : Document
  levelName : Document
  message : Document
  arguments : Arguments
  created : Document
  /-- The fault that is being dealt with; the inner nothing stands for a notice that asked for a
  fault when there was none. -/
  fault : Option (Option Fault)
  extras : Entries Document
deriving DecidableEq

namespace Record

/-- The standard attributes of records. -/
def attributes : List String :=
  ["args", "asctime", "created", "exc_info", "exc_text", "filename", "funcName", "levelname",
   "levelno", "lineno", "module", "msecs", "message", "msg", "name", "pathname", "process",
   "processName", "relativeCreated", "stack_info", "taskName", "thread", "threadName"]

/-- An attribute that an extra field of a notice may not be named after. -/
def isProtected (name : String) : Bool := attributes.contains name && name ≠ "taskName"

/-- Set an attribute of a record, standard or not. -/
def set (record : Record) (name : String) (value : Document) : Record :=
  match name with
  | "name" => { record with logger := value }
  | "levelname" => { record with levelName := value }
  | "msg" => { record with message := value }
  | "args" => { record with arguments := .single value }
  | "created" => { record with created := value }
  | "exc_info" => if value.isTruthy then record else { record with fault := none }
  | _ => { record with extras := record.extras.insert name value }

/-- Set several attributes of a record. -/
def setAll (record : Record) (members : List (String × Document)) : Record :=
  members.foldl (fun changed member => changed.set member.1 member.2) record

/-- The name of the logger above all others. -/
def rootName : String := "root"

/-- The name by which records call a logger. -/
def loggerName (name : String) : String := if name = "" then rootName else name

/-- The record of a notice, without its extra fields. -/
def plain (created : Document) (notice : Notice) : Record where
  logger := .text (loggerName notice.logger)
  levelName := .text (Level.name notice.level)
  message := notice.message
  arguments := .ofList notice.arguments
  created
  fault := notice.fault.map some
  extras := Entries.empty

/-- The fault of an extra field named after a standard attribute. -/
def overwrites (name : String) : Fault :=
  .missingKey (.text ("Attempt to overwrite " ++ Text.quoted name ++ " in LogRecord"))

/-- The record of a notice. -/
def ofNotice (created : Document) (notice : Notice) : Except Fault Record :=
  match notice.extras.find? fun extra => isProtected extra.1 with
  | some extra => .error (overwrites extra.1)
  | none => .ok ((plain created notice).setAll notice.extras)

/-- The message itself, or filled with its arguments if there are any. -/
def filled (record : Record) : Except Fault String :=
  if record.message.isOversized then .error .oversizedInteger
  else if record.arguments.isEmpty then .ok record.message.shown
  else Template.fill record.message.shown record.arguments

/-- The name of the method that gives the text of a record. -/
def textName : String := "getMessage"

/-- The text of a record. A further attribute with the name of the method takes its place, and no
document can be called. -/
def text (record : Record) : Except Fault String :=
  match record.extras.find? textName with
  | some value => .error (.notCallable value)
  | none => record.filled

end Record

/-- The service and the environment that records are written for. -/
structure Context where
  service : Document
  version : Document
  environment : Document
deriving DecidableEq

/-- Add the context to a record, unless it has one. -/
def Context.add (context : Context) (record : Record) : Record :=
  let withService :=
    if record.extras.contains "service" then record
    else record.set "service"
      (.object [("name", context.service), ("version", context.version)])
  if withService.extras.contains "environment" then withService
  else withService.set "environment" context.environment

end Keyspace.Journal
