import Keyspace.Journal.Record
import Keyspace.Journal.Timestamp
import Keyspace.Json.Writer
import Keyspace.Text.LetterCase

/-!
# Lines

A record is written as one line, a JSON object. Time, level, logger and message come first, then
the fault, then the further attributes in their order, and last the version of the schema. A
further attribute never takes the place of a member that is there before it.
-/

namespace Keyspace.Journal.Line

/-- The words for the standard levels. -/
def levelWords : List (String × String) :=
  [("CRITICAL", "Fatal"), ("ERROR", "Error"), ("WARNING", "Warning"), ("INFO", "Information"),
   ("DEBUG", "Debug"), ("NOTSET", "Verbose")]

/-- The word for the name of a level; other names are written as titles. -/
def levelWord : Document → Except Fault String
  | .text name => .ok ((levelWords.lookup (Text.upper name)).getD (Text.title name))
  | other => .error (.lacks other "upper")

/-- The member that names the version of the schema. -/
def schemaName : String := "ecs.version"

/-- The version of the schema where none is asked for. -/
def standardSchema : Document := .text "8.10.0"

/-- The text of a fault, or of the absence of one. -/
def faultText : Option Fault → String
  | some fault => fault.trace
  | none => "NoneType: None"

/-- What is told of a fault; where there is none, the message stands for it. -/
def faultMembers (message : String) (fault : Option Fault) : List (String × Document) :=
  let kind := match fault with
    | some fault => fault.kind.name
    | none => "Exception"
  let detail := match fault with
    | some fault => fault.message
    | none => message
  [("exception", .text (faultText fault)),
   ("error", .object [("type", .text kind), ("message", .text detail),
     ("stack_trace", .text (faultText fault))])]

/-- The members of a line in front of the further attributes. -/
def leading (record : Record) : Except Fault (Entries Document) := do
  let time ← Timestamp.write record.created
  let level ← levelWord record.levelName
  let message ← record.text
  return Entries.ofList ([("@timestamp", .text time), ("level", .text level),
    ("logger", record.logger), ("message", .text message)] ++
    (match record.fault with
      | none => []
      | some fault => faultMembers message fault))

/-- Add a further attribute, unless it is a standard one or a member of that name is there. -/
def addExtra (document : Entries Document) (extra : String × Document) : Entries Document :=
  if Record.attributes.contains extra.1 || document.contains extra.1 then document
  else document.insert extra.1 extra.2

/-- The object of a line. -/
def members (schema : Document) (record : Record) : Except Fault (Entries Document) := do
  let document := record.extras.pairs.foldl addExtra (← leading record)
  return if schema.isTruthy then document.insert schemaName schema else document

/-- The line of a record. -/
def write (schema : Document) (record : Record) : Except Fault String := do
  let document := Document.object (← members schema record).pairs
  if document.isOversized then .error .oversizedInteger
  else return Json.write document

end Keyspace.Journal.Line
